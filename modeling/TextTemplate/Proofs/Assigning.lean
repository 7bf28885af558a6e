import TextTemplate.CommandLine.Invocation
import TextTemplate.Proofs.Trimming

/-!
# What items assign

An item is cut at its first equals sign, and is refused if it has none or has nothing before it. What stands before
it names something unless it is all blanks. Trimming comes after that check, so a name of blanks is not refused: the
empty name gets a value exactly where an item is of this form. The names are in the order in which they come
first, and each has the value that comes last.
-/

namespace TextTemplate

namespace Assignment

/-! ## One item -/

/-- The text before the first equals sign of an item. -/
def nameOf (item : Text) : Text :=
  item.takeWhile (· ≠ .char '=')

/-- The text behind the first equals sign of an item. -/
def valueOf (item : Text) : Text :=
  (item.dropWhile (· ≠ .char '=')).tail

/-- Something, be it blanks, stands before an equals sign. -/
def IsAssignment (item : Text) : Prop :=
  .char '=' ∈ item ∧ nameOf item ≠ []

/-- More than blanks stand before the first equals sign of an item. -/
def NamesSomething (item : Text) : Prop :=
  .char '=' ∈ item ∧ ∃ c ∈ nameOf item, Text.isBlank c = false

/-- Blanks, and nothing else, stand before the first equals sign of an item. -/
def NamesBlanks (item : Text) : Prop :=
  .char '=' ∈ item ∧ nameOf item ≠ [] ∧ ∀ c ∈ nameOf item, Text.isBlank c = true

instance (item : Text) : Decidable (IsAssignment item) :=
  inferInstanceAs (Decidable (_ ∧ _))

lemma isAssignment_iff {item : Text} : IsAssignment item ↔ NamesSomething item ∨ NamesBlanks item := by
  constructor
  · rintro ⟨hsign, hname⟩
    by_cases hblank : ∀ c ∈ nameOf item, Text.isBlank c = true
    · exact .inr ⟨hsign, hname, hblank⟩
    · exact .inl ⟨hsign, by simpa using hblank⟩
  · rintro (⟨hsign, c, hc, -⟩ | ⟨hsign, hname, -⟩)
    · exact ⟨hsign, List.ne_nil_of_mem hc⟩
    · exact ⟨hsign, hname⟩

lemma not_isAssignment_iff {item : Text} : ¬ IsAssignment item ↔ .char '=' ∉ item ∨ nameOf item = [] := by
  rw [IsAssignment, Classical.not_and_iff_not_or_not, not_not]

lemma cut?_equalsSign (item : Text) :
    item.cut? Marker.equalsSign = if .char '=' ∈ item then some (nameOf item, valueOf item) else none := by
  induction item with
  | nil => rfl
  | cons c rest ih =>
    rw [Text.cut?]
    by_cases hc : c = .char '='
    · subst hc
      simp [Text.startsWith, Marker.equalsSign, nameOf, valueOf]
    · have hstart : Text.startsWith (c :: rest) Marker.equalsSign.text = false := by
        simp [Text.startsWith, Marker.equalsSign, List.isPrefixOf, Ne.symm hc]
      rw [if_neg (by simp [hstart]), ih]
      by_cases hrest : .char '=' ∈ rest <;> simp [hrest, hc, Ne.symm hc, nameOf, valueOf]

lemma ofItem?_eq (item : Text) :
    ofItem? item = if IsAssignment item then some ((nameOf item).trim, valueOf item) else none := by
  rw [ofItem?, cut?_equalsSign]
  by_cases hsign : .char '=' ∈ item
  · by_cases hname : nameOf item = [] <;> simp [IsAssignment, hsign, hname]
  · simp [IsAssignment, hsign]

/-! ## The names and the values of items -/

/-- The trimmed names of items, each where it comes first. -/
def namesOf (items : List Text) : List Text :=
  (items.map fun item => (nameOf item).trim).eraseDups

/-- The value of the last item with a trimmed name. -/
def lastValue (items : List Text) (name : Text) : Text :=
  ((items.filter fun item => (nameOf item).trim = name).getLast?.map valueOf).getD []

/-- Each name of some items with its last value. -/
def tableOf (items : List Text) : List (Text × Text) :=
  (namesOf items).map fun name => (name, lastValue items name)

lemma mem_namesOf {items : List Text} {name : Text} :
    name ∈ namesOf items ↔ ∃ item ∈ items, (nameOf item).trim = name := by
  simp [namesOf, List.mem_eraseDups]

lemma eraseDups_concat (names : List Text) (name : Text) :
    (names ++ [name]).eraseDups =
      if name ∈ names.eraseDups then names.eraseDups else names.eraseDups ++ [name] := by
  rw [List.eraseDups_append]
  by_cases h : name ∈ names <;> simp [List.removeAll, List.eraseDups_cons, List.mem_eraseDups, h]

lemma nodup_eraseDups (names : List Text) : names.eraseDups.Nodup := by
  induction names using List.reverseRecOn with
  | nil => exact List.nodup_nil
  | append_singleton names name ih =>
    rw [eraseDups_concat]
    split
    · exact ih
    · next hfresh =>
      refine List.nodup_append.2 ⟨ih, by simp, ?_⟩
      intro other hother last hlast
      rw [List.mem_singleton.1 hlast]
      exact ne_of_mem_of_not_mem hother hfresh

lemma namesOf_concat (items : List Text) (item : Text) :
    namesOf (items ++ [item]) =
      if (nameOf item).trim ∈ namesOf items then namesOf items
      else namesOf items ++ [(nameOf item).trim] := by
  unfold namesOf
  rw [List.map_append, List.map_singleton, eraseDups_concat]

lemma lastValue_concat (items : List Text) (item name : Text) :
    lastValue (items ++ [item]) name =
      if name = (nameOf item).trim then valueOf item else lastValue items name := by
  unfold lastValue
  rw [List.filter_append]
  by_cases h : name = (nameOf item).trim
  · simp [h]
  · simp [h, Ne.symm h]

lemma insert_map (name value : Text) {names : List Text} (hnames : names.Nodup) (f : Text → Text) :
    insert name value (names.map fun n => (n, f n)) =
      (if name ∈ names then names else names ++ [name]).map
        fun n => (n, if n = name then value else f n) := by
  induction names with
  | nil => simp [insert]
  | cons first rest ih =>
    obtain ⟨hfirst, hrest⟩ := List.nodup_cons.1 hnames
    rw [List.map_cons, insert]
    by_cases h : first = name
    · subst h
      have hothers : ∀ n ∈ rest, n ≠ first := fun n hn => ne_of_mem_of_not_mem hn hfirst
      have hkept : (rest.map fun n => (n, f n)) = rest.map fun n => (n, if n = first then value else f n) :=
        List.map_congr_left fun n hn => by rw [if_neg (hothers n hn)]
      simp [hkept]
    · rw [if_neg h, ih hrest]
      by_cases hmem : name ∈ rest <;> simp [hmem, h, Ne.symm h]

lemma tableOf_concat (items : List Text) (item : Text) :
    tableOf (items ++ [item]) = insert (nameOf item).trim (valueOf item) (tableOf items) := by
  have hnodup : (namesOf items).Nodup := nodup_eraseDups _
  unfold tableOf
  rw [insert_map _ _ hnodup, namesOf_concat]
  exact List.map_congr_left fun name _ => by rw [lastValue_concat]

/-! ## All items -/

section All

variable {items before after : List Text} {item : Text}

lemma addAll_append (assigned : List (Text × Text)) (items others : List Text) :
    addAll assigned (items ++ others) = (addAll assigned items).bind fun found => addAll found others := by
  induction items generalizing assigned with
  | nil => rfl
  | cons item rest ih =>
    rw [List.cons_append, addAll, addAll]
    cases ofItem? item with
    | none => rfl
    | some pair => exact ih _

lemma ofItems_of_forall (h : ∀ item ∈ items, IsAssignment item) : ofItems items = .ok (tableOf items) := by
  induction items using List.reverseRecOn with
  | nil => rfl
  | append_singleton items item ih =>
    have hitems := ih fun other hother => h other (List.mem_append_left _ hother)
    have hitem := h item (List.mem_append_right _ List.mem_cons_self)
    unfold ofItems at hitems ⊢
    rw [addAll_append, hitems, Except.bind, addAll, ofItem?_eq, if_pos hitem, tableOf_concat]
    rfl

lemma ofItems_of_first (hbefore : ∀ other ∈ before, IsAssignment other) (h : ¬ IsAssignment item) :
    ofItems (before ++ item :: after) = .error item := by
  have hfound := ofItems_of_forall hbefore
  unfold ofItems at hfound ⊢
  rw [addAll_append, hfound, Except.bind, addAll, ofItem?_eq, if_neg h]

lemma forall_or_first (items : List Text) :
    (∀ item ∈ items, IsAssignment item) ∨
      ∃ before item after, items = before ++ item :: after ∧ (∀ other ∈ before, IsAssignment other) ∧
        ¬ IsAssignment item := by
  cases hfirst : items.find? fun item => ¬ IsAssignment item with
  | none => exact .inl (by simpa using hfirst)
  | some item =>
    obtain ⟨hitem, before, after, rfl, hbefore⟩ := List.find?_eq_some_iff_append.1 hfirst
    exact .inr ⟨before, item, after, rfl, by simpa using hbefore, by simpa using hitem⟩

lemma nil_mem_namesOf_iff (h : ∀ item ∈ items, IsAssignment item) :
    [] ∈ namesOf items ↔ ∃ item ∈ items, NamesBlanks item := by
  rw [mem_namesOf]
  constructor
  · rintro ⟨item, hitem, htrim⟩
    obtain ⟨hsign, hname⟩ := h item hitem
    exact ⟨item, hitem, hsign, hname, Text.isBlank_of_trim_eq_nil htrim⟩
  · rintro ⟨item, hitem, -, -, hblank⟩
    exact ⟨item, hitem, Text.trim_append_blank hblank []⟩

end All

end Assignment

open Assignment in
/-- The values of an option are all assignments, or the command complains about the first that is none, for it has no
equals sign or nothing before it. If all are, each trimmed name, in the order in which they come first, has the value
of its last item; and the empty name is one of them only where an item has blanks alone before its sign. -/
theorem CommandLine.Work.assigned_lastValues (option : String) (items : List Text) (notes : Array Note) :
    match assigned option items notes with
    | (.ok assignments, later) =>
      (∀ item ∈ items, NamesSomething item ∨ NamesBlanks item) ∧
        assignments = (namesOf items).map (fun name => (name, lastValue items name)) ∧
        ([] ∈ namesOf items ↔ ∃ item ∈ items, NamesBlanks item) ∧ later = notes
    | (.error stop, later) =>
      (∃ before item after, items = before ++ item :: after ∧
        (∀ other ∈ before, NamesSomething other ∨ NamesBlanks other) ∧ (.char '=' ∉ item ∨ nameOf item = []) ∧
        stop = .usage .render (.invalidValue option (complaint item))) ∧ later = notes := by
  unfold assigned
  rcases forall_or_first items with hall | ⟨before, item, after, rfl, hbefore, hitem⟩
  · rw [ofItems_of_forall hall]
    exact ⟨fun item hitem => isAssignment_iff.1 (hall item hitem), rfl, nil_mem_namesOf_iff hall, rfl⟩
  · rw [ofItems_of_first hbefore hitem]
    have hothers := fun other hother => isAssignment_iff.1 (hbefore other hother)
    exact ⟨⟨before, item, after, rfl, hothers, not_isAssignment_iff.1 hitem, rfl⟩, rfl⟩

example :
    Assignment.ofItems ["a=1".text, "b = x=y".text, " a=".text] =
      .ok [(['a'], []), (['b'], " x=y".text)] := by
  decide

/-- Blanks before the sign are accepted, and name nothing. -/
theorem Assignment.ofItems_blankName :
    let item : Text := " =x".text
    (∀ c ∈ nameOf item, Text.isBlank c = true) ∧ ofItems [item] = .ok [([], ['x'])] := by
  intro item
  have hname : nameOf item = [.char ' '] := by decide
  have hblank : Text.isBlank ' ' = true := by decide
  refine ⟨fun c hc => ?_, by decide⟩
  rw [hname, List.mem_singleton] at hc
  rw [hc, hblank]

end TextTemplate

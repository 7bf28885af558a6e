import TextTemplate.Frame
import TextTemplate.Proofs.Numerals
import TextTemplate.Resolver.Data
import TextTemplate.Value.Display

/-!
# Data as JSON has it

Values as they are read from JSON have no parts but such values, and all of them can be shown. What a loop
walks in them has a text or a position for a key. Only a number that a frame counts need not be such a value:
it may be too long to be written.
-/

namespace TextTemplate

namespace Value

/-- A value as JSON has it: texts for keys, and integers that can be written. -/
inductive IsJson : Value → Prop where
  | null : IsJson null
  | bool (b : Bool) : IsJson (bool b)
  | int {n : Int} (h : (Text.writeInteger? n).isSome = true) : IsJson (int n)
  | float (x : Binary64) : IsJson (float x)
  | text (t : Text) : IsJson (text t)
  | list {items : List Value} (h : ∀ v ∈ items, IsJson v) : IsJson (list items)
  | map {entries : List (Value × Value)} (hkeys : ∀ entry ∈ entries, ∃ t, entry.1 = Value.text t)
      (h : ∀ entry ∈ entries, IsJson entry.2) : IsJson (map entries)

section Display

lemma display_int (n : Int) :
    (int n).display =
      match Text.writeInteger? n with
      | some t => .ok t
      | none => .error .tooManyDigits := by
  cases hwritten : Text.writeInteger? n with
  | none => simp only [display, plain?, literal?, hwritten]
  | some t => simp only [display, plain?, literal?, hwritten]

lemma display_int_error {n : Int} {f : Failure} (h : (int n).display = .error f) :
    Text.writeInteger? n = none := by
  rw [display_int] at h
  cases hwritten : Text.writeInteger? n with
  | none => rfl
  | some t =>
    rw [hwritten] at h
    cases h

lemma literals?_isSome {items : List Value} (h : ∀ v ∈ items, (literal? v).isSome = true) :
    (literals? items).isSome = true := by
  induction items with
  | nil => rfl
  | cons v rest ih =>
    obtain ⟨t, ht⟩ := Option.isSome_iff_exists.1 (h v List.mem_cons_self)
    obtain ⟨ts, hts⟩ := Option.isSome_iff_exists.1 (ih fun w hw => h w (List.mem_cons_of_mem _ hw))
    rw [literals?, ht, hts]
    rfl

lemma entryLiterals?_isSome {entries : List (Value × Value)}
    (h : ∀ entry ∈ entries, (literal? entry.1).isSome = true ∧ (literal? entry.2).isSome = true) :
    (entryLiterals? entries).isSome = true := by
  induction entries with
  | nil => rfl
  | cons entry rest ih =>
    obtain ⟨k, v⟩ := entry
    obtain ⟨hkey, hvalue⟩ := h (k, v) List.mem_cons_self
    obtain ⟨t, ht⟩ := Option.isSome_iff_exists.1 hkey
    obtain ⟨u, hu⟩ := Option.isSome_iff_exists.1 hvalue
    obtain ⟨ts, hts⟩ := Option.isSome_iff_exists.1 (ih fun e he => h e (List.mem_cons_of_mem _ he))
    change literal? k = some t at ht
    change literal? v = some u at hu
    rw [entryLiterals?, entryLiteral?, ht, hu, hts]
    rfl

lemma IsJson.literal {v : Value} (h : v.IsJson) : (literal? v).isSome = true := by
  induction h with
  | null => rfl
  | bool b => rfl
  | int h => exact h
  | float x => rfl
  | text t => rfl
  | list h ih =>
    rw [literal?, Option.isSome_map]
    exact literals?_isSome ih
  | map hkeys h ih =>
    rw [literal?, Option.isSome_map]
    refine entryLiterals?_isSome fun entry hentry => ⟨?_, ih entry hentry⟩
    obtain ⟨t, ht⟩ := hkeys entry hentry
    rw [ht]
    rfl

lemma IsJson.display {v : Value} (h : v.IsJson) : ∃ t, v.display = .ok t := by
  obtain ⟨t, ht⟩ := Option.isSome_iff_exists.1 h.literal
  unfold Value.display
  split
  · exact ⟨_, rfl⟩
  · exact ⟨_, rfl⟩
  · exact ⟨_, rfl⟩
  · have hplain : ∃ u, plain? v = some u := by
      unfold plain?
      split
      · exact ⟨_, rfl⟩
      · exact ⟨t, ht⟩
    obtain ⟨u, hu⟩ := hplain
    rw [hu]
    exact ⟨u, rfl⟩

end Display

section Parts

variable {v : Value}

lemma isJson_of_valueAt? {entries : List (Value × Value)} (h : ∀ entry ∈ entries, entry.2.IsJson)
    {key w : Value} (hw : valueAt? key entries = some w) : w.IsJson := by
  obtain ⟨entry, hfind, rfl⟩ := Option.map_eq_some_iff.1 hw
  exact h entry (List.mem_of_find?_eq_some hfind)

lemma itemAt?_eq_some_iff {items : List Value} {i : Int} {v : Value} :
    itemAt? items i = some v ↔
      ∃ n : Nat, (i = n ∨ i = n - items.length) ∧ items[n]? = some v := by
  unfold itemAt?
  constructor
  · intro h
    split at h
    · next hpos => exact ⟨i.toNat, .inl (by omega), h⟩
    · split at h
      · next hneg => exact ⟨(items.length + i).toNat, .inr (by omega), h⟩
      · cases h
  · rintro ⟨n, hi, hitem⟩
    have hlt := (List.getElem?_eq_some_iff.1 hitem).1
    rcases hi with rfl | rfl
    · rw [if_pos (by omega), Int.toNat_natCast, hitem]
    · have hplace : ((items.length : Int) + (n - items.length)).toNat = n := by omega
      rw [if_neg (by omega), if_pos (by omega), hplace, hitem]

lemma mem_of_itemAt? {items : List Value} {i : Int} {w : Value} (h : itemAt? items i = some w) :
    w ∈ items := by
  obtain ⟨n, -, hitem⟩ := itemAt?_eq_some_iff.1 h
  exact List.mem_of_getElem? hitem

lemma fieldAt?_nil (segment : Text) : fieldAt? [] segment = none := by
  unfold fieldAt?
  cases segment.isIdentifier with
  | false => rfl
  | true => rfl

lemma IsJson.child (h : v.IsJson) (segment : Text) :
    ∃ found, v.child? segment = .ok found ∧ ∀ w ∈ found, w.IsJson := by
  have hscalar : ∃ found, Except.ok (fieldAt? [] segment) = (.ok found : Except Failure (Option Value)) ∧
      ∀ w ∈ found, w.IsJson :=
    ⟨none, congrArg Except.ok (fieldAt?_nil segment), by simp⟩
  cases h with
  | null => exact hscalar
  | bool b => exact hscalar
  | int h => exact hscalar
  | float x => exact hscalar
  | text t => exact hscalar
  | list h =>
    refine ⟨_, rfl, fun w hw => ?_⟩
    obtain ⟨i, -, hitem⟩ := Option.bind_eq_some_iff.1 hw
    exact h w (mem_of_itemAt? hitem)
  | map hkeys h =>
    refine ⟨_, rfl, fun w hw => ?_⟩
    rcases Option.or_eq_some_iff.1 hw with hnamed | ⟨-, hcounted⟩
    · exact isJson_of_valueAt? h hnamed
    · obtain ⟨i, -, hvalue⟩ := Option.bind_eq_some_iff.1 hcounted
      exact isJson_of_valueAt? h hvalue

lemma IsJson.walk (h : v.IsJson) (path : List Text) :
    ∃ found, v.walk? path = .ok found ∧ ∀ w ∈ found, w.IsJson := by
  induction path generalizing v with
  | nil => exact ⟨some v, rfl, by simpa using h⟩
  | cons segment rest ih =>
    obtain ⟨found, hchild, hfound⟩ := h.child segment
    rw [walk?, hchild]
    cases found with
    | none => exact ⟨none, rfl, by simp⟩
    | some w => exact ih (hfound w rfl)

/-- The key of a pair: a text, or a position. -/
def IsKey (k : Value) : Prop :=
  (∃ t, k = text t) ∨ ∃ n, k = int n

lemma IsJson.pairs (h : v.IsJson) {streams : Streams} {pairs : List (Value × Value)}
    (hpairs : v.pairs? streams = some pairs) : ∀ pair ∈ pairs, pair.1.IsKey ∧ pair.2.IsJson := by
  cases h with
  | null => cases hpairs
  | bool b => cases hpairs
  | int h => cases hpairs
  | float x => cases hpairs
  | text t => cases hpairs
  | list h =>
    obtain rfl := Option.some.inj hpairs
    intro pair hpair
    obtain ⟨⟨w, i⟩, hw, rfl⟩ := List.mem_map.1 hpair
    exact ⟨.inr ⟨i, rfl⟩, h w (List.fst_mem_of_mem_zipIdx hw)⟩
  | map hkeys h =>
    obtain rfl := Option.some.inj hpairs
    intro pair hpair
    exact ⟨.inl (hkeys pair hpair), h pair hpair⟩

end Parts

end Value

/-! ## Answers from such data -/

/-- The frame of a loop over such data. -/
structure Frame.OfJson (frame : Frame) : Prop where
  key : frame.key.IsKey
  value : frame.value.IsJson

lemma Frame.OfJson.answer {m : Markers} {frame : Frame} (h : frame.OfJson) (segments : List Text)
    (default : Text) :
    ∃ v, frame.answer m segments default = .ok v ∧
      (v.IsJson ∨ segments.head? = some m.index.text ∧ ∃ n, v = .int n) := by
  by_cases hindex : segments.head? = some m.index.text
  · cases segments with
    | nil => cases hindex
    | cons first rest =>
      rw [Frame.answer, if_pos (Option.some.inj hindex)]
      cases rest.head?.bind Text.readInteger? with
      | some offset => exact ⟨_, rfl, .inr ⟨hindex, _, rfl⟩⟩
      | none =>
        refine ⟨_, rfl, ?_⟩
        rcases h.key with ⟨t, ht⟩ | ⟨n, hn⟩
        · left
          rw [ht]
          exact .text t
        · exact .inr ⟨hindex, n, hn⟩
  · obtain ⟨found, hwalk, hfound⟩ := h.value.walk segments
    rw [answer_eq hindex, hwalk]
    refine ⟨_, rfl, .inl ?_⟩
    cases found with
    | none => exact .text default
    | some w => exact hfound w rfl

lemma DataSource.reply_isJson {d : DataSource} (h : d.root.IsJson) (e : Text) :
    (∃ v, (d.reply e).result = .ok v ∧ v.IsJson) ∨ ∃ path, (d.reply e).result = .error (.unresolved path) := by
  unfold reply
  rcases d.parse e with ⟨path, default?⟩
  obtain ⟨found, hwalk, hfound⟩ := h.walk (d.segments path)
  dsimp only
  rw [hwalk]
  cases found with
  | some v => exact .inl ⟨v, rfl, hfound v rfl⟩
  | none =>
    cases default? with
    | some default => exact .inl ⟨_, rfl, .text default⟩
    | none =>
      dsimp only
      split
      · exact .inr ⟨path, rfl⟩
      · exact .inl ⟨_, rfl, .text []⟩

end TextTemplate

import TextTemplate.Proofs.Keys
import TextTemplate.Resolver.Data

/-!
# Paths through nested data

A segment leads from a mapping to the value of an entry, and from a list to an item: the one at the integer that
the segment spells, counted from the end where it is negative. A path is answered with the value that its segments
lead to. Where they lead to none, the default is the answer, if there is one, and strictness decides if there is none.
-/

namespace TextTemplate

namespace Value

/-- Nested lists and mappings of scalars. A mapping has texts for keys, each once. -/
inductive IsTree : Value → Prop where
  | null : IsTree null
  | bool (b : Bool) : IsTree (bool b)
  | int (n : Int) : IsTree (int n)
  | float (x : Binary64) : IsTree (float x)
  | text (t : Text) : IsTree (text t)
  | list {items : List Value} (h : ∀ v ∈ items, IsTree v) : IsTree (list items)
  | map {entries : List (Text × Value)} (hdistinct : (entries.map (·.1)).Nodup)
      (h : ∀ entry ∈ entries, IsTree entry.2) :
      IsTree (map (entries.map fun entry => (.text entry.1, entry.2)))

/-- A segment leads from a value to one of its parts. -/
inductive IsPart : Value → Text → Value → Prop where
  | entry {entries : List (Value × Value)} {key : Text} {v : Value} (h : (Value.text key, v) ∈ entries) :
      IsPart (map entries) key v
  | item {items : List Value} {segment : Text} {i : Nat} {v : Value} (hspells : segment.Spells i)
      (h : items[i]? = some v) : IsPart (list items) segment v
  | itemFromEnd {items : List Value} {segment : Text} {i : Nat} {v : Value}
      (hspells : segment.Spells (i - items.length)) (h : items[i]? = some v) : IsPart (list items) segment v

/-- Segments lead from a value, part by part, to a value inside it. -/
inductive Leads : Value → List Text → Value → Prop where
  | here (v : Value) : Leads v [] v
  | through {v w node : Value} {segment : Text} {path : List Text} (part : v.IsPart segment w)
      (rest : w.Leads path node) : Leads v (segment :: path) node

/-! ## Parts -/

section Entries

variable {entries : List (Text × Value)} {segment : Text}

lemma valueAt?_text_iff (hdistinct : (entries.map (·.1)).Nodup) {v : Value} :
    valueAt? (.text segment) (entries.map fun entry => (.text entry.1, entry.2)) = some v ↔
      (Value.text segment, v) ∈ entries.map fun entry => (Value.text entry.1, entry.2) := by
  constructor
  · intro h
    obtain ⟨⟨key, w⟩, hfind, rfl⟩ := Option.map_eq_some_iff.1 h
    have hmem := List.mem_of_find?_eq_some hfind
    have hsame := List.find?_some hfind
    obtain ⟨entry, -, heq⟩ := List.mem_map.1 hmem
    obtain ⟨rfl, rfl⟩ := Prod.mk.inj heq
    have hkey : entry.1 = segment := by simpa [sameKey] using hsame
    rwa [hkey] at hmem
  · intro h
    obtain ⟨entry, hentry, heq⟩ := List.mem_map.1 h
    obtain ⟨hkey, rfl⟩ := Prod.mk.inj heq
    rw [← hkey]
    exact valueAt?_text hdistinct hentry

lemma valueAt?_int (i : Int) :
    valueAt? (.int i) (entries.map fun entry => (.text entry.1, entry.2)) = none := by
  rw [valueAt?, Option.map_eq_none_iff, List.find?_eq_none]
  intro entry hentry
  obtain ⟨given, -, rfl⟩ := List.mem_map.1 hentry
  simp [sameKey, asInt?]

end Entries

lemma IsTree.child {v : Value} (h : v.IsTree) (segment : Text) :
    ∃ found, v.child? segment = .ok found ∧ ∀ w, found = some w ↔ v.IsPart segment w := by
  have hscalar : v.child? segment = .ok (fieldAt? [] segment) → (∀ w, ¬ v.IsPart segment w) →
      ∃ found, v.child? segment = .ok found ∧ ∀ w, found = some w ↔ v.IsPart segment w := by
    intro hchild hnone
    refine ⟨none, hchild.trans (congrArg Except.ok (fieldAt?_nil segment)), fun w => ?_⟩
    exact iff_of_false (by simp) (hnone w)
  cases h with
  | null => exact hscalar rfl fun w hw => by cases hw
  | bool b => exact hscalar rfl fun w hw => by cases hw
  | int n => exact hscalar rfl fun w hw => by cases hw
  | float x => exact hscalar rfl fun w hw => by cases hw
  | text t => exact hscalar rfl fun w hw => by cases hw
  | @list items h =>
    refine ⟨_, rfl, fun w => ?_⟩
    rw [Option.bind_eq_some_iff]
    constructor
    · rintro ⟨i, hread, hitem⟩
      have hspells := Text.readInteger?_eq_some_iff.1 hread
      obtain ⟨n, rfl | rfl, hw⟩ := itemAt?_eq_some_iff.1 hitem
      · exact .item hspells hw
      · exact .itemFromEnd hspells hw
    · intro hpart
      cases hpart with
      | @item _ _ n _ hspells hw =>
        exact ⟨_, Text.readInteger?_eq_some_iff.2 hspells, itemAt?_eq_some_iff.2 ⟨n, .inl rfl, hw⟩⟩
      | @itemFromEnd _ _ n _ hspells hw =>
        exact ⟨_, Text.readInteger?_eq_some_iff.2 hspells, itemAt?_eq_some_iff.2 ⟨n, .inr rfl, hw⟩⟩
  | @map entries hdistinct h =>
    refine ⟨_, rfl, fun w => ?_⟩
    -- A segment that spells an integer is looked up as that integer too, which is no key.
    have hcounted : ((Text.readInteger? segment).bind fun i =>
        valueAt? (.int i) (entries.map fun entry => (.text entry.1, entry.2))) = none := by
      cases Text.readInteger? segment with
      | none => rfl
      | some i => exact valueAt?_int i
    rw [hcounted, Option.or_none, valueAt?_text_iff hdistinct]
    constructor
    · exact .entry
    · intro hpart
      cases hpart with
      | entry h => exact h

lemma IsTree.part {v w : Value} {segment : Text} (h : v.IsTree) (hpart : v.IsPart segment w) : w.IsTree := by
  cases h with
  | null => cases hpart
  | bool b => cases hpart
  | int n => cases hpart
  | float x => cases hpart
  | text t => cases hpart
  | list h =>
    cases hpart with
    | item _ hw => exact h w (List.mem_of_getElem? hw)
    | itemFromEnd _ hw => exact h w (List.mem_of_getElem? hw)
  | map hdistinct h =>
    cases hpart with
    | entry hw =>
      obtain ⟨entry, hentry, heq⟩ := List.mem_map.1 hw
      obtain ⟨-, rfl⟩ := Prod.mk.inj heq
      exact h entry hentry

/-! ## Paths -/

theorem IsTree.walk {v : Value} (h : v.IsTree) (path : List Text) :
    ∃ found, v.walk? path = .ok found ∧ ∀ node, found = some node ↔ v.Leads path node := by
  induction path generalizing v with
  | nil =>
    refine ⟨some v, rfl, fun node => ?_⟩
    constructor
    · rintro ⟨⟩
      exact .here v
    · intro hleads
      cases hleads
      rfl
  | cons segment rest ih =>
    obtain ⟨found, hchild, hfound⟩ := h.child segment
    rw [walk?, hchild]
    cases found with
    | none =>
      refine ⟨none, rfl, fun node => iff_of_false (by simp) ?_⟩
      intro hleads
      cases hleads with
      | @through _ w _ _ _ part _ => cases (hfound w).2 part
    | some w =>
      obtain ⟨reached, hwalk, hreached⟩ := ih (h.part ((hfound w).1 rfl))
      refine ⟨reached, hwalk, fun node => (hreached node).trans ?_⟩
      constructor
      · exact .through ((hfound w).1 rfl)
      · intro hleads
        cases hleads with
        | @through _ w' _ _ _ part rest =>
          obtain rfl := Option.some.inj ((hfound w').2 part)
          exact rest

lemma Leads.append {v w node : Value} {path path' : List Text} (h : v.Leads path w) (h' : w.Leads path' node) :
    v.Leads (path ++ path') node := by
  induction h with
  | here => exact h'
  | through part _ ih => exact .through part (ih h')

lemma leads_decimal {items : List Value} {i : Nat} {v : Value} (hi : i < Text.beyond Text.maxDigits)
    (hitem : items[i]? = some v) : (list items).Leads [Text.decimal i] v :=
  .through (.item (Text.spells_decimal hi) hitem) (.here v)

end Value

/-! ## Expressions -/

namespace DataSource

variable {d : DataSource} {first : Text} {rest : List Text}

/-- A path, and a default behind it, if there is one. -/
def expression (d : DataSource) (path : Text) (default? : Option Text) : Text :=
  path ++ default?.elim [] fun default => d.args.text ++ default

/-- The answer where a path leads to no value. -/
def missing (d : DataSource) (path : Text) : Option Text → Reply
  | some default => { result := .ok (.text default.trim) }
  | none =>
    if d.strict then { result := .error (.unresolved path) }
    else { result := .ok (.text []), notes := [.noValue path] }

lemma parse_expression {path : Text} (hpath : path.Avoids d.args) (htrim : path.trim = path)
    (default? : Option Text) : d.parse (d.expression path default?) = (path, default?.map Text.trim) := by
  unfold parse expression
  cases default? with
  | none =>
    rw [Option.elim_none, List.append_nil, Text.cut?_eq_none_iff.2 hpath.not_infix]
    exact congrArg (·, none) htrim
  | some default =>
    have hcut : (path ++ (d.args.text ++ default)).cut? d.args = some (path, default) :=
      Text.cut?_eq_some_iff.2 ⟨List.append_assoc _ _ _, hpath.not_infix_dropLast⟩
    rw [Option.elim_some, hcut]
    exact congrArg (·, some default.trim) htrim

lemma reply_expression {path : Text} (hpath : path.Avoids d.args) (htrim : path.trim = path)
    (default? : Option Text) :
    d.reply (d.expression path default?) =
      match d.root.walk? (d.segments path) with
      | .error f => { result := .error f }
      | .ok (some v) => { result := .ok v }
      | .ok none => d.missing path default? := by
  unfold reply
  rw [parse_expression hpath htrim]
  dsimp only
  rcases d.root.walk? (d.segments path) with f | _ | v
  · rfl
  · cases default? with
    | none => rfl
    | some default => rfl
  · rfl

/-- Segments are joined to a path, and perhaps followed by a default. Where they lead to a value in nested data, that
value is the reply, with or without a default and in either strictness; the decimal digits of a position lead to
the item there, up to the 4300 digits that can be read. Where they lead to none, the reply is the trimmed default,
or without one a failure of a strict source and the empty text of a lenient one. -/
theorem reply_joined (d : DataSource) (first : Text) (rest : List Text) (default? : Option Text)
    (htree : d.root.IsTree) (hapart : d.scope.text.Avoids d.args)
    (hsegments : ∀ segment ∈ first :: rest, segment.Avoids d.scope ∧ segment.Avoids d.args)
    (htrim : (Text.joinWith d.scope (first, rest)).trim = Text.joinWith d.scope (first, rest)) :
    let path := Text.joinWith d.scope (first, rest)
    let reply := d.reply (d.expression path default?)
    (∀ node, d.root.Leads (first :: rest) node → reply = { result := .ok node }) ∧
      (∀ before i items item, first :: rest = before ++ [Text.decimal i] → i < Text.beyond Text.maxDigits →
        d.root.Leads before (.list items) → items[i]? = some item → reply = { result := .ok item }) ∧
      ((∀ node, ¬ d.root.Leads (first :: rest) node) → reply = d.missing path default?) := by
  intro path reply
  have havoids : path.Avoids d.args := hapart.joinWith fun segment hsegment => (hsegments segment hsegment).2
  have hsplit : d.segments path = first :: rest := by
    have hpieces := Text.splitOn_joinWith fun segment hsegment => (hsegments segment hsegment).1
    rw [segments, hpieces]
  obtain ⟨found, hwalk, hfound⟩ := htree.walk (first :: rest)
  have hreply := reply_expression havoids htrim default?
  rw [hsplit, hwalk] at hreply
  have hreached : ∀ node, d.root.Leads (first :: rest) node → reply = { result := .ok node } := by
    intro node hleads
    rw [(hfound node).2 hleads] at hreply
    exact hreply
  refine ⟨hreached, ?_, ?_⟩
  · intro before i items item hpath hi hbefore hitem
    apply hreached
    rw [hpath]
    exact hbefore.append (Value.leads_decimal hi hitem)
  · intro hnone
    cases found with
    | none => exact hreply
    | some node => exact absurd ((hfound node).1 rfl) (hnone node)

/-- Two items under `a`, the second of which is a mapping with an entry under the empty name. -/
def nestedData : Value :=
  .map [(.text ['a'], .list [.null, .map [(.text [], .int 7)]])]

lemma nestedData_isTree : nestedData.IsTree := by
  have hentry : (Value.map [(.text [], .int 7)]).IsTree :=
    @Value.IsTree.map [([], .int 7)] (by simp) (by simpa using Value.IsTree.int 7)
  have hitems : (Value.list [.null, .map [(.text [], .int 7)]]).IsTree := by
    apply Value.IsTree.list
    simpa using ⟨Value.IsTree.null, hentry⟩
  exact @Value.IsTree.map [(['a'], _)] (by simp) (by simpa using hitems)

/-- The last item, counted from the end in digits of another script, and one item too far, both with a default that
holds the separator. -/
theorem reply_joined_fromEnd :
    let d : DataSource := ⟨nestedData, Markers.default.scope, Markers.default.args, true⟩
    let first : Text := ['a']
    let inside : List Text := [['-', '١'], []]
    let beyond : List Text := [['2']]
    let default : Text := " x, y ".text
    d.root.IsTree ∧ d.scope.text.Avoids d.args ∧
      (∀ segment ∈ first :: (inside ++ beyond), Text.Avoids d.scope segment ∧ Text.Avoids d.args segment) ∧
      (Text.joinWith d.scope (first, inside)).trim = Text.joinWith d.scope (first, inside) ∧
      (Text.joinWith d.scope (first, beyond)).trim = Text.joinWith d.scope (first, beyond) ∧
      d.root.Leads (first :: inside) (.int 7) ∧ (∀ node, ¬ d.root.Leads (first :: beyond) node) ∧
      d.reply (d.expression (Text.joinWith d.scope (first, inside)) (some default)) = { result := .ok (.int 7) } ∧
      d.reply (d.expression (Text.joinWith d.scope (first, beyond)) (some default)) =
        { result := .ok (.text "x, y".text) } := by
  intro d first inside beyond default
  have hapart : d.scope.text.Avoids d.args := by decide
  have hsegments : ∀ segment ∈ first :: (inside ++ beyond),
      Text.Avoids d.scope segment ∧ Text.Avoids d.args segment := by
    decide
  have hinside : (Text.joinWith d.scope (first, inside)).trim = Text.joinWith d.scope (first, inside) := by
    decide +kernel
  have hbeyond : (Text.joinWith d.scope (first, beyond)).trim = Text.joinWith d.scope (first, beyond) := by
    decide +kernel
  have hspells : Text.Spells ['-', '١'] ((1 : Nat) - ([Value.null, .map [(.text [], .int 7)]].length : Int)) :=
    Text.readInteger?_eq_some_iff.1 (by decide +kernel)
  have hleads : d.root.Leads (first :: inside) (.int 7) :=
    .through (.entry List.mem_cons_self) (.through (.itemFromEnd hspells rfl)
      (.through (.entry List.mem_cons_self) (.here _)))
  have hnone : ∀ node, ¬ d.root.Leads (first :: beyond) node := by
    have hwalk : nestedData.walk? (first :: beyond) = .ok none := by rfl
    obtain ⟨found, hfollowed, hfound⟩ := nestedData_isTree.walk (first :: beyond)
    obtain rfl := Except.ok.inj (hfollowed.symm.trans hwalk)
    exact fun node hnode => Option.some_ne_none _ ((hfound node).2 hnode).symm
  have hfirst := reply_joined d first inside (some default) nestedData_isTree hapart
    (fun segment h => hsegments segment (List.mem_append_left beyond h)) hinside
  have hsecond := reply_joined d first beyond (some default) nestedData_isTree hapart
    (fun segment h => hsegments segment (List.cons_subset_cons first (List.subset_append_right inside beyond) h))
    hbeyond
  exact ⟨nestedData_isTree, hapart, hsegments, hinside, hbeyond, hleads, hnone, hfirst.1 _ hleads,
    hsecond.2.2 hnone⟩

end DataSource

end TextTemplate

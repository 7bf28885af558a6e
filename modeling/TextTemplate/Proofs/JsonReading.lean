import TextTemplate.Proofs.JsonData
import TextTemplate.Source.Basic

/-!
# Data that is loaded

Whatever is read from a JSON text has texts for keys and integers that can be written, and so has the data that
is loaded from a file, with some values replaced by texts.
-/

namespace TextTemplate

namespace Value

/-- An entry of a mapping as JSON has it. -/
def IsMember (entry : Value × Value) : Prop :=
  (∃ t, entry.1 = text t) ∧ entry.2.IsJson

lemma isJson_of_members {entries : List (Value × Value)} (h : ∀ entry ∈ entries, IsMember entry) :
    (map entries).IsJson :=
  .map (fun entry hentry => (h entry hentry).1) fun entry hentry => (h entry hentry).2

lemma members_insertEntry {key value : Value} (hnew : IsMember (key, value))
    {entries : List (Value × Value)} (h : ∀ entry ∈ entries, IsMember entry) :
    ∀ entry ∈ insertEntry key value entries, IsMember entry := by
  induction entries with
  | nil =>
    intro entry hentry
    obtain rfl := List.mem_singleton.1 hentry
    exact hnew
  | cons first rest ih =>
    obtain ⟨k, v⟩ := first
    obtain ⟨hfirst, hrest⟩ := List.forall_mem_cons.1 h
    rw [insertEntry]
    by_cases hsame : sameKey k key = true
    · rw [if_pos hsame]
      exact List.forall_mem_cons.2 ⟨⟨hfirst.1, hnew.2⟩, hrest⟩
    · rw [if_neg hsame]
      exact List.forall_mem_cons.2 ⟨hfirst, ih hrest⟩

lemma members_foldl {α : Type} {given : List α} {key value : α → Value}
    (hgiven : ∀ a ∈ given, IsMember (key a, value a)) {entries : List (Value × Value)}
    (h : ∀ entry ∈ entries, IsMember entry) :
    ∀ entry ∈ given.foldl (fun m a => insertEntry (key a) (value a) m) entries, IsMember entry := by
  induction given generalizing entries with
  | nil => exact h
  | cons a rest ih =>
    obtain ⟨ha, hrest⟩ := List.forall_mem_cons.1 hgiven
    exact ih hrest (members_insertEntry ha h)

end Value

namespace Json

open DecimalLiteral

/-! ## Scalars -/

lemma naturalOf_lt {ds : Text} (h : ∀ c ∈ ds, c.isDigit = true) : naturalOf ds < Text.beyond ds.length := by
  have hvalues : ∀ d ∈ ds.map fun c => c.toNat - '0'.toNat, d < 10 := by
    intro d hd
    obtain ⟨c, hc, rfl⟩ := List.mem_map.1 hd
    have hdigit := h c hc
    simp only [CodePoint.isDigit, Bool.and_eq_true, decide_eq_true_eq] at hdigit
    obtain ⟨hlow, hhigh⟩ : 48 ≤ c.toNat ∧ c.toNat ≤ 57 := hdigit
    have hzero : '0'.toNat = 48 := rfl
    omega
  have hlt := Text.ofDigits_lt hvalues
  rwa [List.length_map] at hlt

lemma isDigit_of_whole? {input ds rest : Text} (h : whole? input = some (ds, rest)) :
    ∀ c ∈ ds, c.isDigit = true := by
  unfold whole? at h
  split at h
  · obtain ⟨rfl, -⟩ := Prod.mk.inj (Option.some.inj h)
    intro c hc
    obtain rfl := List.mem_singleton.1 hc
    rfl
  · dsimp only at h
    split at h
    · cases h
    · obtain ⟨rfl, -⟩ := Prod.mk.inj (Option.some.inj h)
      exact List.all_eq_true.1 List.all_takeWhile

lemma isJson_of_number? {input rest : Text} {v : Value} (h : number? input = some (.ok v, rest)) :
    v.IsJson := by
  unfold number? at h
  dsimp only at h
  obtain ⟨⟨whole, after⟩, hwhole, h⟩ := Option.bind_eq_some_iff.1 h
  dsimp only at h
  split at h
  · obtain rfl := Except.ok.inj (Prod.mk.inj (Option.some.inj h)).1
    exact .float _
  split at h
  · next hlength =>
    obtain rfl := Except.ok.inj (Prod.mk.inj (Option.some.inj h)).1
    have hlt : naturalOf whole < Text.beyond Text.maxDigits :=
      Nat.lt_of_lt_of_le (naturalOf_lt (isDigit_of_whole? hwhole)) (Text.beyond_mono hlength)
    apply Value.IsJson.int
    apply Text.writeInteger?_isSome
    split <;> omega
  · cases h

lemma isJson_of_words {word : String} {v : Value} (h : (word, v) ∈ words) : v.IsJson := by
  simp only [words, List.mem_cons, Prod.mk.injEq, List.not_mem_nil, or_false] at h
  obtain ⟨-, rfl⟩ | ⟨-, rfl⟩ | ⟨-, rfl⟩ | ⟨-, rfl⟩ | ⟨-, rfl⟩ | ⟨-, rfl⟩ := h
  · exact .null
  · exact .bool true
  · exact .bool false
  · exact .float _
  · exact .float _
  · exact .float _

lemma isJson_of_readScalar {input : Text} {v : Value} {rest : Rest input}
    (h : readScalar input = .ok (v, rest)) : v.IsJson := by
  unfold readScalar at h
  split at h
  · next word value hfind =>
    dsimp only at h
    split at h
    · obtain rfl := (Prod.mk.inj (Except.ok.inj h)).1
      exact isJson_of_words (List.mem_of_find?_eq_some hfind)
    · cases h
  · split at h
    · cases h
    · next value after hnumber =>
      split at h
      · cases value with
        | error fault => cases h
        | ok w =>
          obtain rfl := (Prod.mk.inj (Except.ok.inj h)).1
          exact isJson_of_number? hnumber
      · cases h

/-! ## Values -/

lemma bind_ok {ε α β : Type} {x : Except ε α} {f : α → Except ε β} {b : β}
    (h : x >>= f = .ok b) : ∃ a, x = .ok a ∧ f a = .ok b := by
  cases x with
  | error e => cases h
  | ok a => exact ⟨a, rfl, h⟩

/-- Whatever is read from an input is as JSON has it, also as an item or a member. -/
structure ReadsJson (input : Text) : Prop where
  value : ∀ v rest, readValue input = .ok (v, rest) → v.IsJson
  items : ∀ items rest, readItems input = .ok (items, rest) → ∀ v ∈ items, v.IsJson
  members : ∀ members rest, readMembers input = .ok (members, rest) → ∀ entry ∈ members, Value.IsMember entry

lemma isJson_of_readValue {input : Text} (ih : ∀ shorter : Text, shorter.length < input.length → ReadsJson shorter)
    {v : Value} {rest : Rest input} (h : readValue input = .ok (v, rest)) : v.IsJson := by
  unfold readValue at h
  split at h
  · obtain ⟨⟨t, after⟩, -, h⟩ := bind_ok h
    obtain rfl := (Prod.mk.inj (Except.ok.inj h)).1
    exact .text t
  · next inside =>
    have hskip := skipSpace_length inside
    dsimp only at h
    split at h
    · obtain rfl := (Prod.mk.inj (Except.ok.inj h)).1
      exact .list (by simp)
    · obtain ⟨⟨items, after⟩, hitems, h⟩ := bind_ok h
      obtain rfl := (Prod.mk.inj (Except.ok.inj h)).1
      have hread := ih _ (Nat.lt_succ_of_le hskip)
      exact .list (hread.items items after hitems)
  · next inside =>
    have hskip := skipSpace_length inside
    dsimp only at h
    split at h
    · obtain rfl := (Prod.mk.inj (Except.ok.inj h)).1
      exact Value.isJson_of_members (by simp)
    · obtain ⟨⟨members, after⟩, hmembers, h⟩ := bind_ok h
      obtain rfl := (Prod.mk.inj (Except.ok.inj h)).1
      have hread := ih _ (Nat.lt_succ_of_le hskip)
      exact Value.isJson_of_members (Value.members_foldl (hread.members members after hmembers) (by simp))
  · exact isJson_of_readScalar h

lemma isJson_of_readItems {input : Text} (ih : ∀ shorter : Text, shorter.length < input.length → ReadsJson shorter)
    {items : List Value} {rest : Rest input} (h : readItems input = .ok (items, rest)) :
    ∀ v ∈ items, v.IsJson := by
  unfold readItems at h
  obtain ⟨⟨item, ⟨afterItem, hafter⟩⟩, hitem, h⟩ := bind_ok h
  have hfirst := isJson_of_readValue ih hitem
  dsimp only at h
  split at h
  · obtain rfl := (Prod.mk.inj (Except.ok.inj h)).1
    simpa using hfirst
  · next later hs =>
    obtain ⟨⟨others, after⟩, hothers, h⟩ := bind_ok h
    obtain rfl := (Prod.mk.inj (Except.ok.inj h)).1
    have hskip := skipSpace_length afterItem
    have hskip' := skipSpace_length later
    rw [hs, List.length_cons] at hskip
    have hread := ih (skipSpace later) (by omega)
    exact List.forall_mem_cons.2 ⟨hfirst, hread.items others after hothers⟩
  · cases h

lemma members_of_readMembers {input : Text}
    (ih : ∀ shorter : Text, shorter.length < input.length → ReadsJson shorter)
    {members : List (Value × Value)} {rest : Rest input} (h : readMembers input = .ok (members, rest)) :
    ∀ entry ∈ members, Value.IsMember entry := by
  unfold readMembers at h
  split at h
  · next afterQuote =>
    obtain ⟨⟨name, ⟨afterName, hname⟩⟩, -, h⟩ := bind_ok h
    dsimp only at h
    split at h
    · next afterColon hs =>
      obtain ⟨⟨value, ⟨afterValue, hafter⟩⟩, hvalue, h⟩ := bind_ok h
      have hskip := skipSpace_length afterName
      have hskip' := skipSpace_length afterColon
      rw [hs, List.length_cons] at hskip
      rw [List.length_cons] at ih
      have hfirst : Value.IsMember (.text name, value) :=
        ⟨⟨name, rfl⟩, (ih _ (by omega)).value value _ hvalue⟩
      dsimp only at h
      split at h
      · obtain rfl := (Prod.mk.inj (Except.ok.inj h)).1
        simpa using hfirst
      · next later hs' =>
        obtain ⟨⟨others, after⟩, hothers, h⟩ := bind_ok h
        obtain rfl := (Prod.mk.inj (Except.ok.inj h)).1
        have hskip₂ := skipSpace_length afterValue
        have hskip₃ := skipSpace_length later
        rw [hs', List.length_cons] at hskip₂
        have hread := ih (skipSpace later) (by omega)
        exact List.forall_mem_cons.2 ⟨hfirst, hread.members others after hothers⟩
      · cases h
    · cases h
  · cases h

theorem readsJson (input : Text) : ReadsJson input := by
  induction hn : input.length using Nat.strongRecOn generalizing input with
  | ind n ih =>
    -- Items and members start with a value of the same input, which is read of shorter inputs alone.
    have hshorter : ∀ shorter : Text, shorter.length < input.length → ReadsJson shorter :=
      fun shorter hlt => ih shorter.length (hn ▸ hlt) shorter rfl
    exact ⟨fun v rest => isJson_of_readValue hshorter, fun items rest => isJson_of_readItems hshorter,
      fun members rest => members_of_readMembers hshorter⟩

lemma isJson_of_read {input : Text} {v : Value} (h : read input = .ok v) : v.IsJson := by
  unfold read at h
  split at h
  · cases h
  · obtain ⟨⟨w, rest⟩, hread, h⟩ := bind_ok h
    dsimp only at h
    split at h
    · obtain rfl := Except.ok.inj h
      exact (readsJson _).value w rest hread
    · cases h

end Json

namespace Source

lemma members_isMember {role : SourceRole} {path : Text} {bytes : List UInt8} {entries : List (Value × Value)}
    (h : members role path bytes = .ok entries) : ∀ entry ∈ entries, Value.IsMember entry := by
  unfold members at h
  split at h
  · cases h
  · split at h
    · cases h
    · cases h
    · next read hread =>
      obtain rfl := Except.ok.inj h
      cases Json.isJson_of_read hread with
      | map hkeys hvalues => exact fun entry hentry => ⟨hkeys entry hentry, hvalues entry hentry⟩
    · cases h

/-- Whatever is loaded is data as JSON has it. -/
theorem data_isJson {file? : Option (Text × Entry)} {assignments : List (Text × Text)}
    {entries : List (Value × Value)} (h : data file? assignments = .ok entries) :
    (Value.map entries).IsJson := by
  have hreplaced : ∀ loaded : List (Value × Value), (∀ entry ∈ loaded, Value.IsMember entry) →
      (Value.map (assignments.foldl
        (fun m given => Value.insertEntry (.text given.1) (.text given.2) m) loaded)).IsJson := by
    intro loaded hloaded
    apply Value.isJson_of_members
    apply Value.members_foldl _ hloaded
    exact fun assignment _ => ⟨⟨_, rfl⟩, .text _⟩
  unfold data at h
  dsimp only at h
  split at h
  · obtain rfl := Except.ok.inj h
    exact hreplaced [] (by simp)
  · cases h
  · obtain ⟨loaded, hloaded, h⟩ := Json.bind_ok h
    obtain rfl := Except.ok.inj h
    exact hreplaced loaded (members_isMember hloaded)

end Source

end TextTemplate

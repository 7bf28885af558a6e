import Mathlib.Data.List.TakeWhile
import TextTemplate.Proofs.JsonReading

/-!
# Integers that are too long to be read

A JSON text is refused with its place, whatever is wrong with it, but for one thing: at an integer with too many
digits the readers give up without a place. They do so only if the text has such a run of digits in it.
-/

namespace TextTemplate.Json

open DecimalLiteral

/-- A text has a run of so many digits in it, and they are too many to be read. -/
def HasLongRun (t : Text) (count : Nat) : Prop :=
  ∃ run, run <:+: t ∧ (∀ c ∈ run, c.isDigit = true) ∧ run.length = count ∧ Text.maxDigits < count

lemma HasLongRun.mono {t u : Text} {count : Nat} (h : HasLongRun t count) (htu : t <:+: u) :
    HasLongRun u count := by
  obtain ⟨run, hrun, hdigits, hcount, hlong⟩ := h
  exact ⟨run, hrun.trans htu, hdigits, hcount, hlong⟩

/-! ## What a reader tells of its input -/

/-- What is left is the end of the input, and a complaint about digits is about digits of the input. -/
structure Tells {α : Type} {start : Text} (input : Text) (r : Except Fault (α × Rest start)) : Prop where
  rest : ∀ a rest, r = .ok (a, rest) → rest.1 <:+ input
  run : ∀ count, r = .error (.tooManyDigits count) → HasLongRun input count

section Tells

variable {α β : Type} {start start' input input' : Text}

lemma Tells.ok {a : α} {rest : Rest start} (h : rest.1 <:+ input) :
    Tells input (.ok (a, rest) : Except Fault (α × Rest start)) := by
  constructor
  · intro a' rest' heq
    obtain ⟨rfl, rfl⟩ := Prod.mk.inj (Except.ok.inj heq)
    exact h
  · intro count heq
    cases heq

lemma Tells.malformed (expected : Expectation) (left : Nat) :
    Tells input (.error (.malformed expected left) : Except Fault (α × Rest start)) := by
  constructor
  · intro a rest heq
    cases heq
  · intro count heq
    cases heq

lemma Tells.mono {r : Except Fault (α × Rest start)} (h : Tells input r) (hin : input <:+ input') :
    Tells input' r where
  rest a rest heq := (h.rest a rest heq).trans hin
  run count heq := (h.run count heq).mono hin.isInfix

lemma Tells.bind {x : Except Fault (α × Rest start)} {f : α × Rest start → Except Fault (β × Rest start')}
    (hx : Tells input x)
    (hf : ∀ a rest, rest.length < start.length → rest <:+ input → ∀ h, Tells input (f (a, ⟨rest, h⟩))) :
    Tells input (x >>= f) := by
  cases x with
  | error fault =>
    constructor
    · intro b rest heq
      cases heq
    · intro count heq
      obtain rfl := Except.error.inj heq
      exact hx.run count rfl
  | ok read =>
    obtain ⟨a, ⟨rest, hrest⟩⟩ := read
    exact hf a rest hrest (hx.rest a ⟨rest, hrest⟩ rfl) hrest

end Tells

lemma skipSpace_suffix (input : Text) : skipSpace input <:+ input :=
  List.dropWhile_suffix isSpace

lemma suffix_of_skipSpace {input rest : Text} {c : CodePoint} (h : skipSpace input = c :: rest) : rest <:+ input :=
  (List.suffix_cons c rest).trans (h ▸ skipSpace_suffix input)

/-! ## Strings -/

lemma readUnits_tells (input : Text) : Tells input (readUnits input) := by
  unfold readUnits
  split
  · split
    · exact .malformed _ _
    · have hrest := List.drop_suffix 4 input
      dsimp only
      split
      · next second hr =>
        have hsecond : second.drop 4 <:+ input :=
          (List.drop_suffix 4 second).trans (((List.suffix_cons _ _).trans (List.suffix_cons _ _)).trans (hr ▸ hrest))
        split
        · split
          · exact .malformed _ _
          · split
            · exact .ok hsecond
            · exact .ok hrest
        · exact .ok hrest
      · exact .ok hrest
  · exact .malformed _ _

lemma readString_tells (opening : Nat) (input : Text) : Tells input (readString opening input) := by
  induction hn : input.length using Nat.strongRecOn generalizing input with
  | ind n ih =>
    have hlater : ∀ rest : Text, rest.length < n → rest <:+ input → Tells input (readString opening rest) :=
      fun rest hlt hin => (ih rest.length hlt rest rfl).mono hin
    unfold readString
    split
    · exact .malformed _ _
    · exact .ok (List.suffix_cons _ _)
    · exact .malformed _ _
    · next units =>
      have hunits : units <:+ '\\' :: 'u' :: units := (List.suffix_cons _ _).trans (List.suffix_cons _ _)
      refine ((readUnits_tells units).mono hunits).bind fun c rest hlt hrest _ => ?_
      simp only [List.length_cons] at hn
      refine (hlater rest (by omega) hrest).bind fun text rest' _ hrest' _ => ?_
      exact .ok hrest'
    · next letter rest _ =>
      have hrest : rest <:+ '\\' :: letter :: rest := (List.suffix_cons _ _).trans (List.suffix_cons _ _)
      split
      · exact .malformed _ _
      · simp only [List.length_cons] at hn
        refine (hlater rest (by omega) hrest).bind fun text rest' _ hrest' _ => ?_
        exact .ok hrest'
    · next c rest _ _ _ _ =>
      split
      · exact .malformed _ _
      · simp only [List.length_cons] at hn
        refine (hlater rest (by omega) (List.suffix_cons _ _)).bind fun text rest' _ hrest' _ => ?_
        exact .ok hrest'

/-! ## Numbers -/

lemma minus_suffix (input : Text) : (minus input).2 <:+ input := by
  unfold minus
  split
  · exact List.suffix_cons _ _
  · exact List.suffix_refl _

lemma append_of_whole? {input ds rest : Text} (h : whole? input = some (ds, rest)) : ds ++ rest = input := by
  unfold whole? at h
  split at h
  · obtain ⟨rfl, rfl⟩ := Prod.mk.inj (Option.some.inj h)
    rfl
  · dsimp only at h
    split at h
    · cases h
    · obtain ⟨rfl, rfl⟩ := Prod.mk.inj (Option.some.inj h)
      exact List.takeWhile_append_dropWhile

lemma fraction?_suffix (input : Text) : ((fraction? input).getD ([], input)).2 <:+ input := by
  unfold fraction?
  split
  · next rest =>
    dsimp only
    split
    · exact List.suffix_refl _
    · exact (List.dropWhile_suffix _).trans (List.suffix_cons _ _)
  · exact List.suffix_refl _

lemma exponent?_suffix (input : Text) : ((exponent? input).getD (0, input)).2 <:+ input := by
  unfold exponent?
  split
  · next e rest =>
    have hdigits : ∀ (unsigned : Text) (n : Int), unsigned <:+ rest →
        ((if (digits unsigned).1.isEmpty = true then none else some (n, (digits unsigned).2)).getD
          (0, e :: rest)).2 <:+ e :: rest := by
      intro unsigned n hin
      split
      · exact List.suffix_refl _
      · exact ((List.dropWhile_suffix _).trans hin).trans (List.suffix_cons _ _)
    split
    · split
      next negative unsigned hsigned =>
        have hin : unsigned <:+ rest := by
          have hsecond : _ = unsigned := congrArg Prod.snd hsigned
          rw [← hsecond]
          split
          · exact List.suffix_cons _ _
          · exact minus_suffix rest
        exact hdigits unsigned _ hin
    · exact List.suffix_refl _
  · exact List.suffix_refl _

lemma number?_tells {input rest : Text} {r : Except Fault Value} (h : number? input = some (r, rest)) :
    rest <:+ input ∧ ∀ count, r = .error (.tooManyDigits count) → HasLongRun input count := by
  unfold number? at h
  dsimp only at h
  obtain ⟨⟨whole, after⟩, hwhole, h⟩ := Option.bind_eq_some_iff.1 h
  have heq := append_of_whole? hwhole
  have hunsigned := minus_suffix input
  have hafter : after <:+ input := (heq ▸ List.suffix_append whole after).trans hunsigned
  dsimp only at h
  split at h
  · obtain ⟨rfl, rfl⟩ := Prod.mk.inj (Option.some.inj h)
    exact ⟨((exponent?_suffix _).trans (fraction?_suffix after)).trans hafter, fun count heq => nomatch heq⟩
  split at h
  · obtain ⟨rfl, rfl⟩ := Prod.mk.inj (Option.some.inj h)
    exact ⟨hafter, fun count heq => nomatch heq⟩
  · next hlong =>
    obtain ⟨rfl, rfl⟩ := Prod.mk.inj (Option.some.inj h)
    -- The digits that were counted are the whole part, which stands behind the sign.
    refine ⟨hafter, ?_⟩
    intro count hcount
    obtain rfl := Fault.tooManyDigits.inj (Except.error.inj hcount)
    have hwholeIn : whole <:+: input := (heq ▸ (List.prefix_append whole after).isInfix).trans hunsigned.isInfix
    exact ⟨whole, hwholeIn, isDigit_of_whole? hwhole, rfl, Nat.lt_of_not_le hlong⟩

lemma readScalar_tells (input : Text) : Tells input (readScalar input) := by
  unfold readScalar
  split
  · dsimp only
    split
    · exact .ok (List.drop_suffix _ _)
    · exact .malformed _ _
  · split
    · exact .malformed _ _
    · next value rest hnumber =>
      obtain ⟨hrest, hrun⟩ := number?_tells hnumber
      split
      · cases value with
        | ok v => exact .ok hrest
        | error fault =>
          constructor
          · intro a rest heq
            cases heq
          · intro count heq
            obtain rfl := Except.error.inj heq
            exact hrun count rfl
      · exact .malformed _ _

/-! ## Values -/

/-- Whatever is read from an input, also as items or members, is told of it. -/
structure AllTell (input : Text) : Prop where
  value : Tells input (readValue input)
  items : Tells input (readItems input)
  members : Tells input (readMembers input)

section AllTell

variable {input : Text} (ih : ∀ shorter : Text, shorter.length < input.length → AllTell shorter)

include ih

lemma readValue_tells : Tells input (readValue input) := by
  unfold readValue
  split
  · next rest =>
    refine ((readString_tells _ rest).mono (List.suffix_cons _ _)).bind fun text rest' _ hrest' _ => ?_
    exact .ok hrest'
  · next rest =>
    have hstart := (skipSpace_suffix rest).trans (List.suffix_cons (.char '[') rest)
    have hread := ih (skipSpace rest) (Nat.lt_succ_of_le (skipSpace_length rest))
    dsimp only
    split
    · next hs => exact .ok ((suffix_of_skipSpace hs).trans (List.suffix_cons _ _))
    · refine (hread.items.mono hstart).bind fun items rest' _ hrest' _ => ?_
      exact .ok hrest'
  · next rest =>
    have hstart := (skipSpace_suffix rest).trans (List.suffix_cons (.char '{') rest)
    have hread := ih (skipSpace rest) (Nat.lt_succ_of_le (skipSpace_length rest))
    dsimp only
    split
    · next hs => exact .ok ((suffix_of_skipSpace hs).trans (List.suffix_cons _ _))
    · refine (hread.members.mono hstart).bind fun members rest' _ hrest' _ => ?_
      exact .ok hrest'
  · exact readScalar_tells _

lemma readItems_tells : Tells input (readItems input) := by
  unfold readItems
  refine (readValue_tells ih).bind fun item afterItem hlt hafter _ => ?_
  have hskip := skipSpace_length afterItem
  dsimp only
  split
  · next hs => exact .ok ((suffix_of_skipSpace hs).trans hafter)
  · next later hs =>
    have hlater := (suffix_of_skipSpace hs).trans hafter
    have hskip' := skipSpace_length later
    rw [hs, List.length_cons] at hskip
    have hread := ih (skipSpace later) (by omega)
    refine (hread.items.mono ((skipSpace_suffix later).trans hlater)).bind fun items rest' _ hrest' _ => ?_
    exact .ok hrest'
  · exact .malformed _ _

lemma readMembers_tells : Tells input (readMembers input) := by
  unfold readMembers
  split
  · next afterQuote =>
    refine ((readString_tells _ afterQuote).mono (List.suffix_cons _ _)).bind fun name afterName hlt hafter _ => ?_
    have hskip := skipSpace_length afterName
    dsimp only
    split
    · next afterColon hs =>
      have hcolon := (suffix_of_skipSpace hs).trans hafter
      have hskip' := skipSpace_length afterColon
      rw [hs, List.length_cons] at hskip
      rw [List.length_cons] at ih
      have hvalue := (ih (skipSpace afterColon) (by omega)).value
      refine (hvalue.mono ((skipSpace_suffix _).trans hcolon)).bind fun value afterValue hlt' hafter' _ => ?_
      have hskip₂ := skipSpace_length afterValue
      dsimp only
      split
      · next hs' => exact .ok ((suffix_of_skipSpace hs').trans hafter')
      · next later hs' =>
        have hlater := (suffix_of_skipSpace hs').trans hafter'
        have hskip₃ := skipSpace_length later
        rw [hs', List.length_cons] at hskip₂
        have hread := ih (skipSpace later) (by omega)
        refine (hread.members.mono ((skipSpace_suffix later).trans hlater)).bind fun members rest' _ hrest' _ => ?_
        exact .ok hrest'
      · exact .malformed _ _
    · exact .malformed _ _
  · exact .malformed _ _

end AllTell

theorem allTell (input : Text) : AllTell input := by
  induction hn : input.length using Nat.strongRecOn generalizing input with
  | ind n ih =>
    -- Items start with a value of the same input, which is told by shorter inputs alone.
    have hshorter : ∀ shorter : Text, shorter.length < input.length → AllTell shorter :=
      fun shorter hlt => ih shorter.length (hn ▸ hlt) shorter rfl
    exact ⟨readValue_tells hshorter, readItems_tells hshorter, readMembers_tells hshorter⟩

theorem longRun_of_read {input : Text} {count : Nat} (h : read input = .error (.tooManyDigits count)) :
    HasLongRun input count := by
  unfold read at h
  split at h
  · cases h
  · rcases hread : readValue (skipSpace input) with fault | ⟨v, rest⟩
    · rw [hread] at h
      obtain rfl := Except.error.inj h
      exact ((allTell _).value.run count hread).mono (skipSpace_suffix input).isInfix
    · rw [hread] at h
      dsimp only at h
      change (if _ then _ else _) = _ at h
      split at h <;> cases h

/-! ## Integers alone -/

section Integer

variable {c : CodePoint} {rest : Text}

lemma words_find?_of_digit (hc : c.isDigit = true) :
    words.find? (fun (word, _) => Text.startsWith (c :: rest) word.text) = none := by
  have hfirst : ∀ entry ∈ words, ∃ d others, entry.1.text = d :: others ∧ d.isDigit = false := by
    intro entry hentry
    simp only [words, List.mem_cons, List.not_mem_nil, or_false] at hentry
    obtain rfl | rfl | rfl | rfl | rfl | rfl := hentry <;> exact ⟨_, _, rfl, rfl⟩
  apply List.find?_eq_none.2
  intro entry hentry hstart
  obtain ⟨d, others, hword, hd⟩ := hfirst entry hentry
  rw [Text.startsWith_iff, hword, List.cons_prefix_cons] at hstart
  rw [hstart.1, hc] at hd
  cases hd

lemma number?_of_digits (hc : c.isDigit = true) (hzero : c ≠ '0') (hrest : ∀ d ∈ rest, d.isDigit = true)
    (hlong : Text.maxDigits < (c :: rest).length) :
    number? (c :: rest) = some (.error (.tooManyDigits (c :: rest).length), []) := by
  have hall : ∀ d ∈ c :: rest, d.isDigit = true := List.forall_mem_cons.2 ⟨hc, hrest⟩
  have hdigits : digits (c :: rest) = (c :: rest, []) := by
    rw [digits, List.takeWhile_eq_self_iff.2 hall, List.dropWhile_eq_nil_iff.2 hall]
  have hminus : minus (c :: rest) = (false, c :: rest) := by
    unfold minus
    split
    · next heq =>
      obtain ⟨rfl, -⟩ := List.cons.inj heq
      cases hc
    · rfl
  have hwhole : whole? (c :: rest) = some (c :: rest, []) := by
    unfold whole?
    split
    · next heq => exact absurd (List.cons.inj heq).1 hzero
    · rw [hdigits]
      rfl
  unfold number?
  rw [hminus]
  dsimp only
  rw [hwhole]
  exact if_neg (Nat.not_le.2 hlong)

theorem read_longInteger (hc : c.isDigit = true) (hzero : c ≠ '0') (hrest : ∀ d ∈ rest, d.isDigit = true)
    (hlong : Text.maxDigits < (c :: rest).length) :
    read (c :: rest) = .error (.tooManyDigits (c :: rest).length) := by
  have hspace : isSpace c = false := by
    rw [Bool.eq_false_iff]
    intro hblank
    simp only [isSpace, Bool.or_eq_true, beq_iff_eq] at hblank
    obtain ((rfl | rfl) | rfl) | rfl := hblank <;> cases hc
  have hskip : skipSpace (c :: rest) = c :: rest := List.dropWhile_cons_of_neg (by simp [hspace])
  have hscalar : readScalar (c :: rest) = .error (.tooManyDigits (c :: rest).length) := by
    unfold readScalar
    rw [words_find?_of_digit hc, number?_of_digits hc hzero hrest hlong]
    dsimp only
    have hshorter : ([] : Text).length < (c :: rest).length := Nat.succ_pos _
    rw [dif_pos hshorter]
    rfl
  have hvalue : readValue (c :: rest) = .error (.tooManyDigits (c :: rest).length) := by
    unfold readValue
    split
    · next heq =>
      obtain ⟨rfl, -⟩ := List.cons.inj heq
      cases hc
    · next heq =>
      obtain ⟨rfl, -⟩ := List.cons.inj heq
      cases hc
    · next heq =>
      obtain ⟨rfl, -⟩ := List.cons.inj heq
      cases hc
    · exact hscalar
  have hmark : (c :: rest).head? ≠ some (.char '\uFEFF') := by
    intro heq
    obtain rfl := Option.some.inj heq
    cases hc
  have hread : readValue (skipSpace (c :: rest)) = .error (.tooManyDigits (c :: rest).length) := by rw [hskip, hvalue]
  unfold read
  rw [if_neg hmark, hread]
  rfl

end Integer

end TextTemplate.Json

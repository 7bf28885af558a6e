import TextTemplate.Proofs.JsonFaults
import TextTemplate.Proofs.Sessions

/-!
# Loading source files

Whatever the bytes of a file are, its loader comes to a result, or to a failure that it reports as its own; with
two exceptions, which are passed on as they come from below: bytes that encode no text, and an integer with too
many digits.
-/

namespace TextTemplate

/-! ## Line ends -/

namespace Text

section UnifyLineEnds

variable {run t : Text}

lemma eq_nil_of_isPrefix {c : CodePoint} (hc : c ∉ run) (h : run <+: c :: t) : run = [] := by
  rcases List.prefix_cons_iff.1 h with hnil | ⟨others, rfl, -⟩
  · exact hnil
  · exact absurd List.mem_cons_self hc

lemma isPrefix_of_unifyLineEnds (hrun : (.char '\n') ∉ run) (h : run <+: unifyLineEnds t) : run <+: t := by
  fun_induction unifyLineEnds t generalizing run with
  | case1 => exact h
  | case2 rest ih => exact eq_nil_of_isPrefix hrun h ▸ List.nil_prefix
  | case3 rest _ ih => exact eq_nil_of_isPrefix hrun h ▸ List.nil_prefix
  | case4 c rest _ _ ih =>
    rcases List.prefix_cons_iff.1 h with rfl | ⟨others, rfl, hothers⟩
    · exact List.nil_prefix
    · exact List.cons_prefix_cons.2 ⟨rfl, ih (fun hin => hrun (List.mem_cons_of_mem c hin)) hothers⟩

lemma isInfix_of_unifyLineEnds (hrun : (.char '\n') ∉ run) (h : run <:+: unifyLineEnds t) : run <:+: t := by
  fun_induction unifyLineEnds t with
  | case1 => exact h
  | case2 rest ih =>
    rcases List.infix_cons_iff.1 h with hstart | hlater
    · exact eq_nil_of_isPrefix hrun hstart ▸ List.nil_infix
    · exact (ih hlater).trans ((List.suffix_cons _ _).trans (List.suffix_cons _ _)).isInfix
  | case3 rest _ ih =>
    rcases List.infix_cons_iff.1 h with hstart | hlater
    · exact eq_nil_of_isPrefix hrun hstart ▸ List.nil_infix
    · exact (ih hlater).trans (List.suffix_cons _ rest).isInfix
  | case4 c rest _ _ ih =>
    rcases List.infix_cons_iff.1 h with hstart | hlater
    · rcases List.prefix_cons_iff.1 hstart with rfl | ⟨others, rfl, hothers⟩
      · exact List.nil_infix
      · have hrest := isPrefix_of_unifyLineEnds (fun hin => hrun (List.mem_cons_of_mem c hin)) hothers
        exact (List.cons_prefix_cons.2 ⟨rfl, hrest⟩).isInfix
    · exact (ih hlater).trans (List.suffix_cons c rest).isInfix

lemma unifyLineEnds_of_noReturn (h : ∀ c ∈ t, c ≠ '\r') : unifyLineEnds t = t := by
  fun_induction unifyLineEnds t with
  | case1 => rfl
  | case2 rest ih => exact absurd rfl (h '\r' List.mem_cons_self)
  | case3 rest _ ih => exact absurd rfl (h '\r' List.mem_cons_self)
  | case4 c rest _ _ ih => rw [ih fun d hd => h d (List.mem_cons_of_mem c hd)]

end UnifyLineEnds

end Text

/-! ## Mappings -/

namespace Value

/-- Entries with texts for keys, each of them once. -/
def IsMapping (entries : List (Value × Value)) : Prop :=
  ∃ named : List (Text × Value), entries = named.map (fun entry => (text entry.1, entry.2)) ∧
    (named.map (·.1)).Nodup

lemma isMapping_nil : IsMapping [] := ⟨[], rfl, List.nodup_nil⟩

lemma insertEntry_names (name : Text) (value : Value) (named : List (Text × Value)) :
    ∃ named' : List (Text × Value),
      insertEntry (text name) value (named.map fun entry => (text entry.1, entry.2)) =
        named'.map (fun entry => (text entry.1, entry.2)) ∧
      (named'.map (·.1) = named.map (·.1) ∨
        name ∉ named.map (·.1) ∧ named'.map (·.1) = named.map (·.1) ++ [name]) := by
  induction named with
  | nil => exact ⟨[(name, value)], rfl, .inr ⟨List.not_mem_nil, rfl⟩⟩
  | cons first rest ih =>
    obtain ⟨key, v⟩ := first
    by_cases hsame : key = name
    · subst hsame
      exact ⟨(key, value) :: rest, by simp [insertEntry, sameKey], .inl rfl⟩
    · obtain ⟨named', hentries, hnames⟩ := ih
      refine ⟨(key, v) :: named', ?_, ?_⟩
      · simp [insertEntry, sameKey, hsame, hentries]
      · rcases hnames with hold | ⟨hnew, hlast⟩
        · exact .inl (congrArg (key :: ·) hold)
        · exact .inr ⟨List.not_mem_cons_of_ne_of_not_mem (Ne.symm hsame) hnew, congrArg (key :: ·) hlast⟩

lemma IsMapping.insertEntry {entries : List (Value × Value)} (h : IsMapping entries) (name : Text)
    (value : Value) : IsMapping (Value.insertEntry (text name) value entries) := by
  obtain ⟨named, rfl, hdistinct⟩ := h
  obtain ⟨named', hentries, hnames⟩ := insertEntry_names name value named
  refine ⟨named', hentries, ?_⟩
  rcases hnames with hold | ⟨hnew, hlast⟩
  · rwa [hold]
  · rw [hlast]
    exact List.nodup_append.2 ⟨hdistinct, List.pairwise_singleton _ _, by grind⟩

lemma IsMapping.foldl {α : Type} {given : List α} {key value : α → Value}
    (hgiven : ∀ a ∈ given, ∃ name, key a = text name) {entries : List (Value × Value)} (h : IsMapping entries) :
    IsMapping (given.foldl (fun m a => Value.insertEntry (key a) (value a) m) entries) := by
  induction given generalizing entries with
  | nil => exact h
  | cons a rest ih =>
    obtain ⟨⟨name, hname⟩, hrest⟩ := List.forall_mem_cons.1 hgiven
    rw [List.foldl_cons, hname]
    exact ih hrest (h.insertEntry name (value a))

section ValueAt

variable {entries : List (Value × Value)} (h : IsMapping entries) (name : Text)

include h

lemma IsMapping.valueAt?_insertEntry (given : Text) (value : Value) :
    valueAt? (text name) (Value.insertEntry (text given) value entries) =
      if given = name then some value else valueAt? (text name) entries := by
  obtain ⟨named, rfl, -⟩ := h
  induction named with
  | nil =>
    by_cases hsame : given = name
    · simp [Value.insertEntry, valueAt?, sameKey, hsame]
    · simp [Value.insertEntry, valueAt?, sameKey, hsame]
  | cons first rest ih =>
    obtain ⟨key, v⟩ := first
    by_cases hkey : key = given
    · subst hkey
      by_cases hsame : key = name
      · simp [Value.insertEntry, valueAt?, sameKey, hsame]
      · simp [Value.insertEntry, valueAt?, sameKey, hsame]
    · by_cases hsame : key = name
      · subst hsame
        have hother : given ≠ key := fun heq => hkey heq.symm
        simp [Value.insertEntry, valueAt?, sameKey, hkey, hother]
      · simp only [valueAt?, List.map_cons] at ih ⊢
        simp [Value.insertEntry, sameKey, hkey, hsame, ih]

lemma IsMapping.valueAt?_assigned (assignments : List (Text × Text)) :
    valueAt? (text name)
        (assignments.foldl (fun m given => Value.insertEntry (text given.1) (text given.2) m) entries) =
      ((assignments.reverse.find? fun given => given.1 = name).map fun given => text given.2).or
        (valueAt? (text name) entries) := by
  induction assignments generalizing entries with
  | nil => rfl
  | cons given rest ih =>
    rw [List.foldl_cons, ih (h.insertEntry given.1 (text given.2)), h.valueAt?_insertEntry, List.reverse_cons,
      List.find?_append]
    cases rest.reverse.find? fun given => given.1 = name with
    | some last => rfl
    | none =>
      by_cases hsame : given.1 = name
      · simp [hsame]
      · simp [hsame]

end ValueAt

end Value

namespace Json

lemma not_map_of_readScalar {input : Text} {entries : List (Value × Value)} {rest : Rest input} :
    readScalar input ≠ .ok (.map entries, rest) := by
  intro h
  unfold readScalar at h
  split at h
  · next word value hfind =>
    dsimp only at h
    split at h
    · obtain rfl := (Prod.mk.inj (Except.ok.inj h)).1
      have hword := List.mem_of_find?_eq_some hfind
      simp [words] at hword
    · cases h
  · split at h
    · cases h
    · next value after hnumber =>
      split at h
      · cases value with
        | error fault => cases h
        | ok v =>
          obtain rfl := (Prod.mk.inj (Except.ok.inj h)).1
          unfold number? at hnumber
          dsimp only at hnumber
          obtain ⟨⟨whole, rest⟩, -, hnumber⟩ := Option.bind_eq_some_iff.1 hnumber
          dsimp only at hnumber
          split at hnumber
          · cases hnumber
          · split at hnumber <;> cases hnumber
      · cases h

lemma isMapping_of_readValue {input : Text} {entries : List (Value × Value)} {rest : Rest input}
    (h : readValue input = .ok (.map entries, rest)) : Value.IsMapping entries := by
  unfold readValue at h
  split at h
  · obtain ⟨⟨t, after⟩, -, h⟩ := bind_ok h
    cases h
  · dsimp only at h
    split at h
    · cases h
    · obtain ⟨⟨items, after⟩, -, h⟩ := bind_ok h
      cases h
  · dsimp only at h
    split at h
    · cases h
      exact Value.isMapping_nil
    · obtain ⟨⟨members, after⟩, hmembers, h⟩ := bind_ok h
      cases h
      have hread := (readsJson _).members members after hmembers
      exact Value.isMapping_nil.foldl fun entry hentry => (hread entry hentry).1
  · exact absurd h not_map_of_readScalar

lemma isMapping_of_read {input : Text} {entries : List (Value × Value)} (h : read input = .ok (.map entries)) :
    Value.IsMapping entries := by
  unfold read at h
  split at h
  · cases h
  · obtain ⟨⟨v, rest⟩, hread, h⟩ := bind_ok h
    dsimp only at h
    split at h
    · obtain rfl := Except.ok.inj h
      exact isMapping_of_readValue hread
    · cases h

end Json

/-! ## Files -/

/-- A file holds a JSON value: its bytes encode a text that is read as the value, once its line ends are made one. -/
def Source.Holds (bytes : List UInt8) (v : Value) : Prop :=
  ∃ cs, bytes = Text.utf8 cs ∧ Json.read (Text.ofChars cs).unifyLineEnds = .ok v

namespace SourceError

/-- What a loader reports of a file as its own: a text that is no JSON, a value that is no object, and of markers a
name that none has, or the names whose values are no texts or empty. -/
inductive Reports (path : Text) (bytes : List UInt8) : SourceRole → SourceError → Prop where
  | malformed {role : SourceRole} {cs : List Char} {expected : Json.Expectation} {left : Nat}
      (hbytes : bytes = Text.utf8 cs)
      (hread : Json.read (Text.ofChars cs).unifyLineEnds = .error (.malformed expected left)) :
      Reports path bytes role
        (malformed role path (Json.malformedMessage (Text.ofChars cs).unifyLineEnds expected left))
  | notAnObject {role : SourceRole} {v : Value} (hholds : Source.Holds bytes v)
      (hvalue : ∀ entries, v ≠ .map entries) : Reports path bytes role (notAnObject role path)
  | unknownName {batch : Markers.Batch} {name : Text} {v : Value} (hholds : Source.Holds bytes (.map batch))
      (hentry : (Value.text name, v) ∈ batch) (hname : ∀ n : MarkerName, Value.text name ≠ n.key) :
      Reports path bytes .markers (markers (.unknownName name))
  | invalidValues {batch : Markers.Batch} {names : List MarkerName} (hholds : Source.Holds bytes (.map batch))
      (hsome : names ≠ [])
      (hinvalid : ∀ n ∈ names, ∃ v, batch.Gives n v ∧ ¬ ∃ t, t ≠ [] ∧ v.Writes t) :
      Reports path bytes .markers (markers (.invalidValues names))

/-- A failure that is passed on as it comes from below: the bytes of the file encode no text, or the text has an
integer in it with too many digits. -/
inductive Escapes (bytes : List UInt8) : SourceError → Prop where
  | notUnicode (fault : Utf8Fault) (h : ∀ cs, bytes ≠ Text.utf8 cs) : Escapes bytes (notUnicode fault)
  | tooManyDigits {cs : List Char} {count : Nat} (hbytes : bytes = Text.utf8 cs)
      (hrun : Json.HasLongRun (.ofChars cs) count) : Escapes bytes (tooManyDigits count)

end SourceError

namespace Source

variable {role : SourceRole} {path : Text} {bytes : List UInt8}

lemma text_utf8 (cs : List Char) : text (Text.utf8 cs) = .ok (Text.ofChars cs).unifyLineEnds := by
  rw [text, Text.decodeUtf8_eq_ok_iff.2 rfl]
  rfl

lemma text_failure {fault : Utf8Fault} (h : text bytes = .error fault) : ∀ cs, bytes ≠ Text.utf8 cs := by
  rintro cs rfl
  rw [text_utf8] at h
  cases h

lemma text_eq_ok {input : Text} (h : text bytes = .ok input) :
    ∃ cs, bytes = Text.utf8 cs ∧ input = (Text.ofChars cs).unifyLineEnds := by
  unfold text at h
  cases hdecoded : Text.decodeUtf8 bytes with
  | error fault =>
    rw [hdecoded] at h
    cases h
  | ok cs =>
    rw [hdecoded] at h
    exact ⟨cs, Text.decodeUtf8_eq_ok_iff.1 hdecoded, (Except.ok.inj h).symm⟩

lemma members_failure {e : SourceError} (h : members role path bytes = .error e) :
    if e.isOwn then e.Reports path bytes role else e.Escapes bytes := by
  unfold members at h
  split at h
  · next fault htext =>
    obtain rfl := Except.error.inj h
    exact SourceError.Escapes.notUnicode fault (text_failure htext)
  · next input htext =>
    obtain ⟨cs, hbytes, rfl⟩ := text_eq_ok htext
    split at h
    · next count hread =>
      obtain rfl := Except.error.inj h
      obtain ⟨run, hrun, hdigits, hcount, hlong⟩ := Json.longRun_of_read hread
      -- A run of digits holds no line end, so it was there before the line ends were made one.
      have hlineEnd : (.char '\n') ∉ run := fun hin => absurd (hdigits _ hin) (by decide)
      have hlongRun : Json.HasLongRun (.ofChars cs) count :=
        ⟨run, Text.isInfix_of_unifyLineEnds hlineEnd hrun, hdigits, hcount, hlong⟩
      exact SourceError.Escapes.tooManyDigits hbytes hlongRun
    · next hread =>
      obtain rfl := Except.error.inj h
      exact SourceError.Reports.malformed hbytes hread
    · cases h
    · next v hvalue hread =>
      obtain rfl := Except.error.inj h
      exact SourceError.Reports.notAnObject ⟨cs, hbytes, hread⟩ hvalue

lemma holds_of_members {entries : List (Value × Value)} (h : members role path bytes = .ok entries) :
    Holds bytes (.map entries) := by
  unfold members at h
  split at h
  · cases h
  · next input htext =>
    obtain ⟨cs, hbytes, rfl⟩ := text_eq_ok htext
    split at h
    · cases h
    · cases h
    · next read hread =>
      obtain rfl := Except.ok.inj h
      exact ⟨cs, hbytes, hread⟩
    · cases h

lemma Holds.isMapping {entries : List (Value × Value)} (h : Holds bytes (.map entries)) :
    Value.IsMapping entries := by
  obtain ⟨cs, -, hread⟩ := h
  exact Json.isMapping_of_read hread

lemma reports_of_override {batch : Markers.Batch} (hholds : Holds bytes (.map batch)) {error : MarkerError}
    (h : Markers.default.override batch = .error error) :
    SourceError.Reports path bytes .markers (.markers error) := by
  unfold Markers.override at h
  split at h
  · next key hunknown =>
    obtain rfl := Except.error.inj h
    obtain ⟨⟨key, v⟩, hfind, rfl⟩ := Option.map_eq_some_iff.1 hunknown
    have hentry := List.mem_of_find?_eq_some hfind
    have hname := List.find?_some hfind
    change (MarkerName.ofKey? key).isNone = true at hname
    obtain ⟨named, rfl, -⟩ := hholds.isMapping
    obtain ⟨⟨name, w⟩, -, heq⟩ := List.mem_map.1 hentry
    obtain ⟨rfl, rfl⟩ := Prod.mk.inj heq
    refine .unknownName hholds hentry fun n hn => ?_
    exact MarkerName.ofKey?_isNone_iff.2 ⟨n, hn⟩ hname
  · split at h
    · cases h
    · next hsome =>
      obtain rfl := Except.error.inj h
      refine .invalidValues hholds ?_ fun n hn => Markers.Batch.mem_invalid_iff.1 hn
      intro hnone
      rw [hnone] at hsome
      exact hsome rfl

lemma markers_of_failure {e : SourceError} (h : members .markers path bytes = .error e) :
    (markers path (.ok bytes)).1 = .error e := by
  unfold markers
  dsimp only
  rw [h]

lemma data_of_failure {e : SourceError} (h : members .data path bytes = .error e)
    (assignments : List (Text × Text)) : data (some (path, .ok bytes)) assignments = .error e := by
  unfold data
  dsimp only
  rw [h]
  rfl

/-- Every file is loaded, or refused by its loader for what is wrong with it, or has one of the two faults that the
loaders pass on. The markers are the defaults with the object of the file laid over them, and none is empty;
the data is the mapping of the file, with what is assigned on top of it. -/
theorem loaded_or_reported (path : Text) (bytes : List UInt8) (assignments : List (Text × Text)) :
    (match (markers path (.ok bytes)).1 with
      | .ok loaded =>
        (∃ batch : Markers.Batch, Holds bytes (.map batch) ∧ Markers.default.Overlaid batch loaded) ∧
          ∀ n, (loaded.get n).text ≠ []
      | .error e => if e.isOwn then e.Reports path bytes .markers else e.Escapes bytes) ∧
    (match data (some (path, .ok bytes)) assignments with
      | .ok entries =>
        Value.IsMapping entries ∧ ∃ loaded, Holds bytes (.map loaded) ∧ ∀ name,
          Value.valueAt? (.text name) entries =
            ((assignments.reverse.find? fun given => given.1 = name).map fun given => Value.text given.2).or
              (Value.valueAt? (.text name) loaded)
      | .error e => if e.isOwn then e.Reports path bytes .data else e.Escapes bytes) := by
  constructor
  · cases hbatch : members .markers path bytes with
    | error e =>
      rw [markers_of_failure hbatch]
      exact members_failure hbatch
    | ok batch =>
      have hholds := holds_of_members hbatch
      unfold markers
      dsimp only
      rw [hbatch]
      dsimp only
      cases hloaded : Markers.default.override batch with
      | ok loaded =>
        refine ⟨⟨batch, hholds, ?_⟩, fun n => (loaded.get n).text_ne_nil⟩
        rcases Markers.override_cases .default batch with ⟨hacceptable, heq⟩ | ⟨-, error, heq⟩
        · rw [heq] at hloaded
          obtain rfl := Except.ok.inj hloaded
          exact Markers.overlaid_overlay hacceptable
        · rw [heq] at hloaded
          cases hloaded
      | error e => exact reports_of_override hholds hloaded
  · cases hloaded : members .data path bytes with
    | error e =>
      rw [data_of_failure hloaded assignments]
      exact members_failure hloaded
    | ok loaded =>
      have hholds := holds_of_members hloaded
      unfold data
      dsimp only
      rw [hloaded]
      refine ⟨hholds.isMapping.foldl fun given _ => ⟨given.1, rfl⟩, loaded, hholds, fun name => ?_⟩
      exact hholds.isMapping.valueAt?_assigned name assignments

lemma members_longInteger (role : SourceRole) (path : Text) {n : Nat} (hlong : Text.maxDigits ≤ n) :
    members role path (Text.utf8 (List.replicate (n + 1) '1')) = .error (.tooManyDigits (n + 1)) := by
  have hones : Text.ofChars (List.replicate (n + 1) '1') = List.replicate (n + 1) (.char '1') :=
    List.map_replicate
  have hnoReturn : ∀ c ∈ List.replicate (n + 1) (CodePoint.char '1'), c ≠ .char '\r' := by
    intro c hc
    rw [List.eq_of_mem_replicate hc]
    decide
  have hread : Json.read (List.replicate (n + 1) (.char '1')) = .error (.tooManyDigits (n + 1)) := by
    have hlength : (.char '1' :: List.replicate n (.char '1') : Text).length = n + 1 := by simp
    rw [List.replicate_succ, ← hlength]
    apply Json.read_longInteger (by decide) (by decide)
    · intro c hc
      rw [List.eq_of_mem_replicate hc]
      decide
    · omega
  unfold members
  rw [text_utf8, hones, Text.unifyLineEnds_of_noReturn hnoReturn]
  dsimp only
  rw [hread]

/-- Neither loader reports a byte that starts no character, or an integer of more digits than can be read. -/
theorem load_escapes :
    let fault : Utf8Fault := ⟨0, 1, 0xFF, .invalidStart⟩
    let ones := Text.utf8 (List.replicate 4301 '1')
    (markers ['t'] (.ok [0xFF])).1 = .error (.notUnicode fault) ∧
      data (some (['d'], .ok [0xFF])) [] = .error (.notUnicode fault) ∧
      (markers ['t'] (.ok ones)).1 = .error (.tooManyDigits 4301) ∧
      data (some (['d'], .ok ones)) [] = .error (.tooManyDigits 4301) ∧
      (SourceError.notUnicode fault).isOwn = false ∧ (SourceError.tooManyDigits 4301).isOwn = false := by
  intro fault ones
  have hones : ∀ role path, members role path ones = .error (.tooManyDigits 4301) := fun role path =>
    members_longInteger role path (Nat.le_refl 4300)
  exact ⟨rfl, rfl, markers_of_failure (hones _ _), data_of_failure (hones _ _) [], rfl, rfl⟩

end Source

end TextTemplate

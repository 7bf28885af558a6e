import TextTemplate.Proofs.Legibility

/-!
# On which lines tokens stand

The lines of a template are counted piece by piece as it is read, and the pieces do not hold the markers. So
a token is said to stand on the line after the line breaks before its place, less those inside the markers
before it, and so is a command that is not well formed. Where no marker holds a line break this is the line
of its place.
-/

namespace TextTemplate

/-- The line breaks inside the markers of some tokens. -/
def Markers.breaksAround (m : Markers) (tokens : List Token) : Nat :=
  tokens.countP Token.isCommand * (m.opening.text.lineBreaks + m.closing.text.lineBreaks)

/-- A line is what the template up to the end of some tokens counts, but for the breaks inside markers. -/
def LineBehind (m : Markers) (before : List Token) (line : Nat) : Prop :=
  line + m.breaksAround before = 1 + (reconstruct m before).lineBreaks

/-- A command starts behind a text that is well formed, and `chunk` is what stands between its open marker
and the next one, or the end of the template. -/
structure CommandBehind (m : Markers) (template before : Text) (tokens : List Token) (chunk : Text) : Prop where
  read : tokenize m before = .ok tokens
  starts : ∃ after, before ++ m.opening.text ++ after = template ∧ (after.splitOn m.opening).1 = chunk

/-- What a failure to read a template says of the place of the fault. -/
inductive FaultPlaced (m : Markers) (template : Text) : Failure → Prop where
  | unmatchedClose {before after : Text} (hcut : template.cut? m.closing = some (before, after)) :
      FaultPlaced m template (.unmatchedClose (1 + before.lineBreaks))
  | unclosedCommand {before chunk start text : Text} {tokens : List Token} {line : Nat}
      (hcommand : CommandBehind m template before tokens chunk) (hclose : ¬ m.closing.text <:+: chunk)
      (hline : LineBehind m tokens line) : FaultPlaced m template (.unclosedCommand line start text)
  | unexpectedClose {before chunk inside behind text : Text} {tokens : List Token} {line : Nat}
      (hcommand : CommandBehind m template before tokens chunk)
      (hcut : chunk.cut? m.closing = some (inside, behind)) (hclose : m.closing.text <:+: behind)
      (hline : LineBehind m tokens line) : FaultPlaced m template (.unexpectedClose line text)

/-- What the reading of a template says of lines: every token tells its own, and a failure that of the
fault. -/
def LinesTold (m : Markers) (template : Text) : Except Failure (List Token) → Prop
  | .ok tokens =>
    ∀ before t after, tokens = before ++ t :: after →
      reconstruct m before ++ reconstruct m (t :: after) = template ∧ LineBehind m before t.line
  | .error f => FaultPlaced m template f

section Lines

variable {m : Markers} {template t first chunk : Text} {chunks : List Text} {line : Nat}
  {tokens : List Token} {f : Failure}

/-! ## Counting -/

/-- The line breaks in what was read, the markers left out. -/
def breaksRead (tokens : List Token) : Nat :=
  Text.lineBreaks (tokens.flatMap Token.raw)

lemma breaksRead_cons (t : Token) (rest : List Token) :
    breaksRead (t :: rest) = t.raw.lineBreaks + breaksRead rest := by
  simp [breaksRead]

lemma lineBreaks_reconstruct (m : Markers) (tokens : List Token) :
    (reconstruct m tokens).lineBreaks = breaksRead tokens + m.breaksAround tokens := by
  induction tokens with
  | nil => simp [reconstruct, breaksRead, Markers.breaksAround]
  | cons t rest ih =>
    have hsource : reconstruct m (t :: rest) = t.source m ++ reconstruct m rest := rfl
    rw [hsource, Text.lineBreaks_append, ih, breaksRead_cons]
    unfold Token.source Markers.breaksAround
    by_cases ht : t.isCommand = true
    · simp only [ht, if_true, Text.lineBreaks_append, List.countP_cons, Nat.add_mul]
      omega
    · simp only [ht, List.countP_cons, if_false, Nat.add_zero, Bool.false_eq_true]
      omega

lemma lineBehind_iff : LineBehind m tokens line ↔ line = 1 + breaksRead tokens := by
  unfold LineBehind
  rw [lineBreaks_reconstruct]
  omega

lemma line_tokensOfChunks (h : tokensOfChunks m line chunks = .ok tokens) {before after : List Token}
    {t : Token} (ht : tokens = before ++ t :: after) : t.line = line + breaksRead before := by
  induction chunks generalizing line tokens before with
  | nil =>
    obtain rfl : [] = tokens := by simpa [tokensOfChunks] using h
    simp at ht
  | cons chunk rest ih =>
    obtain ⟨inside, trailing, later, -, hlater, rfl⟩ := tokensOfChunks_cons_ok h
    -- A chunk makes two tokens: the one asked for is one of them, or behind them.
    rcases before with _ | ⟨first, _ | ⟨second, before⟩⟩
    · obtain ⟨rfl, -⟩ : Token.command line inside = t ∧ _ := by simpa using ht
      rfl
    · obtain ⟨rfl, rfl, -⟩ : Token.command line inside = first ∧
          Token.literal (line + inside.lineBreaks) trailing = t ∧ _ := by simpa using ht
      simp [breaksRead, Token.literal, Token.command]
    · obtain ⟨rfl, rfl, hrest⟩ : Token.command line inside = first ∧
          Token.literal (line + inside.lineBreaks) trailing = second ∧ later = before ++ t :: after := by
        simpa using ht
      rw [ih hlater hrest, breaksRead_cons, breaksRead_cons]
      simp only [Token.literal, Token.command]
      omega

/-! ## The first command that is not well formed -/

lemma tokensOfChunks_alone (hbad : ∀ inside trailing, chunk.splitOn m.closing ≠ (inside, [trailing])) :
    tokensOfChunks m line [chunk] = tokensOfChunks m line (chunk :: chunks) := by
  rw [tokensOfChunks, tokensOfChunks]
  rcases hsplit : chunk.splitOn m.closing with ⟨inside, _ | ⟨trailing, _ | ⟨next, more⟩⟩⟩
  · rfl
  · exact absurd hsplit (hbad inside trailing)
  · rfl

lemma exists_fault (h : tokensOfChunks m line chunks = .error f) :
    ∃ good bad later tokens, chunks = good ++ bad :: later ∧ tokensOfChunks m line good = .ok tokens ∧
      tokensOfChunks m (line + breaksRead tokens) [bad] = .error f := by
  induction chunks generalizing line with
  | nil => simp [tokensOfChunks] at h
  | cons chunk rest ih =>
    by_cases hchunk : ∃ inside trailing, chunk.splitOn m.closing = (inside, [trailing])
    · obtain ⟨inside, trailing, hsplit⟩ := hchunk
      rw [tokensOfChunks, hsplit] at h
      dsimp only at h
      cases hrest : tokensOfChunks m (line + inside.lineBreaks + trailing.lineBreaks) rest with
      | ok read =>
        rw [hrest] at h
        cases h
      | error g =>
        rw [hrest] at h
        obtain rfl : g = f := Except.error.inj h
        obtain ⟨good, bad, later, tokens, rfl, hgood, hbad⟩ := ih hrest
        refine ⟨chunk :: good, bad, later, _, rfl, tokensOfChunks_cons hsplit hgood, ?_⟩
        rw [breaksRead_cons, breaksRead_cons]
        simpa only [Token.literal, Token.command, Nat.add_assoc] using hbad
    · refine ⟨[], chunk, rest, [], rfl, rfl, ?_⟩
      have hbad : ∀ inside trailing, chunk.splitOn m.closing ≠ (inside, [trailing]) := by
        intro inside trailing hsplit
        exact hchunk ⟨inside, trailing, hsplit⟩
      have hline : line + breaksRead [] = line := rfl
      rw [hline, tokensOfChunks_alone hbad]
      exact h

lemma split_before {m : Marker} {bad : Text} {good later : List Text}
    (h : t.splitOn m = (first, good ++ bad :: later)) :
    ∃ before after, before ++ m.text ++ after = t ∧ before.splitOn m = (first, good) ∧
      after.splitOn m = (bad, later) := by
  induction good generalizing t first with
  | nil =>
    obtain ⟨after, hcut, hafter⟩ := Text.cut?_of_splitOn_cons h
    have hfree : ¬ m.text <:+: first := by
      apply Text.splitOn_free (t := t)
      simp [h]
    exact ⟨first, after, Text.cut?_append hcut,
      Text.splitOn_of_cut?_none (Text.cut?_eq_none_iff.2 hfree), hafter⟩
  | cons chunk good ih =>
    obtain ⟨after, hcut, hafter⟩ := Text.cut?_of_splitOn_cons h
    obtain ⟨before, behind, rfl, hbefore, hbehind⟩ := ih hafter
    obtain ⟨htext, hfree⟩ := Text.cut?_eq_some_iff.1 hcut
    have hcut' : Text.cut? m (first ++ m.text ++ before) = some (first, before) :=
      Text.cut?_eq_some_iff.2 ⟨rfl, hfree⟩
    refine ⟨first ++ m.text ++ before, behind, ?_, ?_, hbehind⟩
    · rw [← htext]
      simp only [List.append_assoc]
    · rw [Text.splitOn_of_cut?_some hcut', hbefore]

lemma tokenize_of_splitOn (hsplit : t.splitOn m.opening = (first, chunks)) (hclose : first.cut? m.closing = none)
    (h : tokensOfChunks m (1 + first.lineBreaks) chunks = .ok tokens) :
    tokenize m t = .ok (.literal 1 first :: tokens) := by
  rw [tokenize, hsplit]
  dsimp only
  rw [hclose, h]
  rfl

lemma faultPlaced_of_chunk {before : Text} (hcommand : CommandBehind m template before tokens chunk)
    (hline : LineBehind m tokens line) (h : tokensOfChunks m line [chunk] = .error f) :
    FaultPlaced m template f := by
  rw [tokensOfChunks] at h
  rcases hsplit : chunk.splitOn m.closing with ⟨inside, _ | ⟨trailing, _ | ⟨next, more⟩⟩⟩ <;> rw [hsplit] at h
  · obtain rfl := Except.error.inj h
    have hclose := Text.cut?_eq_none_iff.1 (Text.cut?_of_splitOn_nil hsplit).1
    exact .unclosedCommand hcommand hclose hline
  · cases h
  · obtain rfl := Except.error.inj h
    obtain ⟨behind, hcut, hbehind⟩ := Text.cut?_of_splitOn_cons hsplit
    obtain ⟨after, hsecond, -⟩ := Text.cut?_of_splitOn_cons hbehind
    have hclose : m.closing.text <:+: behind := ⟨trailing, after, Text.cut?_append hsecond⟩
    exact .unexpectedClose hcommand hcut hclose hline

lemma cut?_of_cut?_first {before after : Text} (hsplit : template.splitOn m.opening = (first, chunks))
    (hcut : first.cut? m.closing = some (before, after)) :
    ∃ behind, template.cut? m.closing = some (before, behind) := by
  obtain ⟨rfl, hfree⟩ := Text.cut?_eq_some_iff.1 hcut
  have hjoin := Text.joinWith_splitOn m.opening template
  rw [hsplit, Text.joinWith] at hjoin
  let chunkText := chunks.flatMap fun chunk => m.opening.text ++ chunk
  refine ⟨after ++ chunkText, Text.cut?_eq_some_iff.2 ⟨?_, hfree⟩⟩
  rw [← hjoin]
  simp only [chunkText, List.append_assoc]

lemma lineBehind_of_tokenize (h : tokenize m template = .ok tokens) {before after : List Token} {t : Token}
    (ht : tokens = before ++ t :: after) : LineBehind m before t.line := by
  obtain ⟨first, chunks, later, -, -, hlater, rfl⟩ := tokenize_ok h
  rw [lineBehind_iff]
  cases before with
  | nil =>
    obtain ⟨rfl, -⟩ : Token.literal 1 first = t ∧ _ := by simpa using ht
    rfl
  | cons b before =>
    obtain ⟨rfl, hrest⟩ : Token.literal 1 first = b ∧ later = before ++ t :: after := by simpa using ht
    rw [line_tokensOfChunks hlater hrest, breaksRead_cons, Nat.add_assoc]
    rfl

lemma faultPlaced_of_tokenize (h : tokenize m template = .error f) : FaultPlaced m template f := by
  rcases hsplit : template.splitOn m.opening with ⟨first, chunks⟩
  rw [tokenize, hsplit] at h
  dsimp only at h
  cases hclose : first.cut? m.closing with
  | some parts =>
    obtain ⟨before, after⟩ := parts
    obtain ⟨behind, hcut⟩ := cut?_of_cut?_first hsplit hclose
    rw [hclose] at h
    obtain rfl := Except.error.inj h
    exact .unmatchedClose hcut
  | none =>
    rw [hclose] at h
    dsimp only at h
    cases hchunks : tokensOfChunks m (1 + first.lineBreaks) chunks with
    | ok later =>
      rw [hchunks] at h
      cases h
    | error g =>
      rw [hchunks] at h
      obtain rfl : g = f := Except.error.inj h
      obtain ⟨good, bad, later, tokens, rfl, hgood, hbad⟩ := exists_fault hchunks
      obtain ⟨before, after, hplace, hbefore, hafter⟩ := split_before hsplit
      have hcommand : CommandBehind m template before (.literal 1 first :: tokens) bad :=
        ⟨tokenize_of_splitOn hbefore hclose hgood, after, hplace, by rw [hafter]⟩
      apply faultPlaced_of_chunk hcommand _ hbad
      rw [lineBehind_iff, breaksRead_cons, Nat.add_assoc]
      rfl

end Lines

/-- Every token tells the line of its place, and a failure the line of the first close marker, or of the open
marker of the first command that is not well formed; the line breaks inside the markers before it are not
counted. -/
theorem tokenize_linesTold (m : Markers) (template : Text) :
    LinesTold m template (tokenize m template) := by
  cases hread : tokenize m template with
  | ok tokens =>
    intro before t after hsplit
    refine ⟨?_, lineBehind_of_tokenize hread hsplit⟩
    rw [← (tokenize_faithful hread).source_eq, hsplit]
    exact List.flatMap_append.symm
  | error f => exact faultPlaced_of_tokenize hread

/-- An open marker that ends in a line break. -/
def brokenMarkers : Markers :=
  { Markers.default with
    opening := ⟨['<', '\n'], by decide⟩
    closing := ⟨['>'], by decide⟩ }

/-- The text behind the command stands on the second line and tells the first, and so does the command that
is not closed. -/
theorem tokenize_brokenMarkers :
    let template := "<\nx>y".text
    let before := [.literal 1 [], .command 1 ['x']]
    tokenize brokenMarkers template = .ok (before ++ [.literal 1 ['y']]) ∧
      1 + (reconstruct brokenMarkers before).lineBreaks = 2 ∧
      tokenize brokenMarkers (template ++ "<\nz".text) =
        .error (.unclosedCommand 1 ['<', '\n', 'z'] ['z']) ∧
      1 + Text.lineBreaks template = 2 := by
  decide +kernel

end TextTemplate

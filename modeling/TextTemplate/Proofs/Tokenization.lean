import Mathlib.Control.Monad.Basic
import Mathlib.Tactic.Lemma
import TextTemplate.Token.Lexer

/-!
# What tokens are read from a template

The tokens of a template are its text cut up, with nothing lost: writing them again gives the template
back. A command starts at every occurrence of the open marker, taken from the left without overlap, and
nowhere else, whatever the two markers have in common.
-/

namespace TextTemplate

/-! ## Occurrences of a marker -/

namespace Text

/-- The places at which a marker occurs in a text that starts at `place`, where the first `taken`
characters belong to an occurrence already found. Each occurrence is looked for after the one before has
ended. -/
def occurrencesFrom (m : Marker) (place taken : Nat) : Text → List Nat
  | [] => []
  | c :: rest =>
    match taken with
    | left + 1 => occurrencesFrom m (place + 1) left rest
    | 0 =>
      if startsWith (c :: rest) m.text then
        place :: occurrencesFrom m (place + 1) (m.text.length - 1) rest
      else occurrencesFrom m (place + 1) 0 rest

/-- The places at which a marker occurs in a text, from the left and without overlap. -/
def occurrences (m : Marker) (t : Text) : List Nat :=
  occurrencesFrom m 0 0 t

lemma occurrencesFrom_taken (m : Marker) (place taken : Nat) (t : Text) :
    occurrencesFrom m place taken t = occurrencesFrom m (place + taken) 0 (t.drop taken) := by
  induction t generalizing place taken with
  | nil => simp [occurrencesFrom]
  | cons c rest ih =>
    cases taken with
    | zero => rfl
    | succ left =>
      rw [occurrencesFrom, ih, List.drop_succ_cons]
      congr 1
      omega

lemma occurrencesFrom_cut? (m : Marker) (place : Nat) (t : Text) :
    occurrencesFrom m place 0 t =
      match cut? m t with
      | none => []
      | some (before, after) =>
        (place + before.length) ::
          occurrencesFrom m (place + before.length + m.text.length) 0 after := by
  induction t generalizing place with
  | nil => simp [occurrencesFrom, cut?]
  | cons c rest ih =>
    have hm := m.length_pos
    rw [occurrencesFrom, cut?]
    by_cases hstart : startsWith (c :: rest) m.text = true
    · have hdrop : (c :: rest).drop m.text.length = rest.drop (m.text.length - 1) := by
        obtain ⟨n, hn⟩ : ∃ n, m.text.length = n + 1 := ⟨m.text.length - 1, by omega⟩
        rw [hn, List.drop_succ_cons, Nat.add_sub_cancel]
      rw [if_pos hstart, if_pos hstart, occurrencesFrom_taken]
      simp only [hdrop, List.length_nil, Nat.add_zero]
      congr 2
      omega
    · rw [if_neg hstart, if_neg hstart, ih]
      cases hcut : cut? m rest with
      | none => rfl
      | some parts =>
        obtain ⟨before, after⟩ := parts
        simp only [Option.map_some, List.length_cons]
        congr 1
        · omega
        · congr 1
          omega

lemma cut?_of_splitOn_nil {m : Marker} {t first : Text} (h : splitOn m t = (first, [])) :
    cut? m t = none ∧ first = t := by
  cases hcut : cut? m t with
  | none =>
    rw [splitOn_of_cut?_none hcut] at h
    exact ⟨rfl, by simpa using h.symm⟩
  | some parts =>
    obtain ⟨before, after⟩ := parts
    rw [splitOn_of_cut?_some hcut] at h
    simp at h

lemma cut?_of_splitOn_cons {m : Marker} {t first piece : Text} {pieces : List Text}
    (h : splitOn m t = (first, piece :: pieces)) :
    ∃ after, cut? m t = some (first, after) ∧ splitOn m after = (piece, pieces) := by
  cases hcut : cut? m t with
  | none =>
    rw [splitOn_of_cut?_none hcut] at h
    simp at h
  | some parts =>
    obtain ⟨before, after⟩ := parts
    rw [splitOn_of_cut?_some hcut] at h
    simp only [Prod.mk.injEq, List.cons.injEq] at h
    obtain ⟨rfl, rfl, rfl⟩ := h
    exact ⟨after, rfl, rfl⟩

end Text

/-! ## What the reading of a template comes to -/

section Reading

variable {m : Markers} {template chunk : Text} {rest : List Text} {line : Nat} {tokens : List Token}

lemma tokensOfChunks_cons_ok (h : tokensOfChunks m line (chunk :: rest) = .ok tokens) :
    ∃ inside trailing later, chunk.splitOn m.closing = (inside, [trailing]) ∧
      tokensOfChunks m (line + inside.lineBreaks + trailing.lineBreaks) rest = .ok later ∧
      tokens = .command line inside :: .literal (line + inside.lineBreaks) trailing :: later := by
  rw [tokensOfChunks] at h
  split at h
  · simp at h
  · next inside trailing hsplit =>
    dsimp only at h
    cases hlater : tokensOfChunks m (line + inside.lineBreaks + trailing.lineBreaks) rest with
    | error f =>
      rw [hlater] at h
      simp [Except.map] at h
    | ok later =>
      rw [hlater] at h
      exact ⟨inside, trailing, later, hsplit, hlater, by simpa [Except.map] using h.symm⟩
  · simp at h

lemma tokenize_ok (h : tokenize m template = .ok tokens) :
    ∃ first chunks later, template.splitOn m.opening = (first, chunks) ∧
      first.cut? m.closing = none ∧
      tokensOfChunks m (1 + first.lineBreaks) chunks = .ok later ∧
      tokens = .literal 1 first :: later := by
  rcases hsplit : template.splitOn m.opening with ⟨first, chunks⟩
  simp only [tokenize, hsplit] at h
  cases hcut : first.cut? m.closing with
  | some parts =>
    rw [hcut] at h
    simp at h
  | none =>
    rw [hcut] at h
    cases hlater : tokensOfChunks m (1 + first.lineBreaks) chunks with
    | error f =>
      rw [hlater] at h
      simp [Except.map] at h
    | ok later =>
      rw [hlater] at h
      exact ⟨first, chunks, later, rfl, hcut, hlater, by simpa [Except.map] using h.symm⟩

lemma chunk_eq {inside trailing : Text} (h : chunk.splitOn m.closing = (inside, [trailing])) :
    inside ++ m.closing.text ++ trailing = chunk := by
  have hjoin := Text.joinWith_splitOn m.closing chunk
  rw [h] at hjoin
  simpa [Text.joinWith] using hjoin

end Reading

/-! ## Places and kinds -/

/-- A list of kinds that starts and ends with a text, and in which texts and commands alternate. -/
inductive Alternating : List TokenKind → Prop where
  | text : Alternating [.text]
  | command {kinds : List TokenKind} (h : Alternating kinds) :
      Alternating (.text :: .command :: kinds)

/-- The places at which the commands of a token list start, in a source that starts at `place`. -/
def commandPlaces (m : Markers) (place : Nat) : List Token → List Nat
  | [] => []
  | token :: rest =>
    let later := commandPlaces m (place + (token.source m).length) rest
    if token.isCommand then place :: later else later

lemma commandPlaces_literal (m : Markers) (place line : Nat) (t : Text) (rest : List Token) :
    commandPlaces m place (.literal line t :: rest) = commandPlaces m (place + t.length) rest := rfl

lemma commandPlaces_command (m : Markers) (place line : Nat) (raw : Text) (rest : List Token) :
    commandPlaces m place (.command line raw :: rest) =
      place :: commandPlaces m (place + (m.opening.text ++ raw ++ m.closing.text).length) rest := rfl

lemma reconstruct_literal (m : Markers) (line : Nat) (t : Text) (rest : List Token) :
    reconstruct m (.literal line t :: rest) = t ++ reconstruct m rest := rfl

lemma reconstruct_command (m : Markers) (line : Nat) (raw : Text) (rest : List Token) :
    reconstruct m (.command line raw :: rest) =
      m.opening.text ++ raw ++ m.closing.text ++ reconstruct m rest := rfl

lemma length_of_alternating (m : Markers) (place : Nat) (tokens : List Token)
    (h : Alternating (tokens.map Token.kind)) :
    tokens.length = 2 * (commandPlaces m place tokens).length + 1 := by
  generalize hkinds : tokens.map Token.kind = kinds at h
  induction h generalizing tokens place with
  | text =>
    obtain ⟨t, rfl, ht⟩ := List.map_eq_singleton_iff.1 hkinds
    simp [commandPlaces, Token.isCommand, ht]
  | command _ ih =>
    obtain ⟨t, tail, rfl, ht, htail⟩ := List.map_eq_cons_iff.1 hkinds
    obtain ⟨u, rest, rfl, hu, hrest⟩ := List.map_eq_cons_iff.1 htail
    have htext : t.isCommand = false := by simp [Token.isCommand, ht]
    have hcommand : u.isCommand = true := by simp [Token.isCommand, hu]
    have hlength := ih (place + (t.source m).length + (u.source m).length) rest hrest
    simp only [commandPlaces, htext, hcommand, Bool.false_eq_true, if_false, if_true, List.length_cons,
      hlength]
    omega

section Chunks

variable {m : Markers} {chunks : List Text} {line : Nat} {tokens : List Token}

lemma reconstruct_tokensOfChunks (h : tokensOfChunks m line chunks = .ok tokens) :
    reconstruct m tokens = chunks.flatMap fun chunk => m.opening.text ++ chunk := by
  induction chunks generalizing line tokens with
  | nil =>
    obtain rfl : [] = tokens := by simpa [tokensOfChunks] using h
    rfl
  | cons chunk rest ih =>
    obtain ⟨inside, trailing, later, hsplit, hlater, rfl⟩ := tokensOfChunks_cons_ok h
    rw [reconstruct_command, reconstruct_literal, ih hlater, List.flatMap_cons, ← chunk_eq hsplit]
    simp only [List.append_assoc]

lemma alternating_tokensOfChunks (t : Token) (ht : t.kind = .text)
    (h : tokensOfChunks m line chunks = .ok tokens) :
    Alternating ((t :: tokens).map Token.kind) := by
  induction chunks generalizing line tokens t with
  | nil =>
    obtain rfl : [] = tokens := by simpa [tokensOfChunks] using h
    rw [List.map_singleton, ht]
    exact .text
  | cons chunk rest ih =>
    obtain ⟨inside, trailing, later, hsplit, hlater, rfl⟩ := tokensOfChunks_cons_ok h
    have hrest := ih (.literal (line + inside.lineBreaks) trailing) rfl hlater
    rw [List.map_cons, List.map_cons, ht]
    exact .command hrest

lemma commandPlaces_tokensOfChunks (place : Nat) {t first : Text}
    (hsplit : t.splitOn m.opening = (first, chunks)) (h : tokensOfChunks m line chunks = .ok tokens) :
    commandPlaces m (place + first.length) tokens = t.occurrencesFrom m.opening place 0 := by
  induction chunks generalizing line tokens place t first with
  | nil =>
    obtain rfl : [] = tokens := by simpa [tokensOfChunks] using h
    rw [Text.occurrencesFrom_cut?, (Text.cut?_of_splitOn_nil hsplit).1]
    rfl
  | cons chunk rest ih =>
    obtain ⟨inside, trailing, later, hchunk, hlater, rfl⟩ := tokensOfChunks_cons_ok h
    obtain ⟨after, hcut, hafter⟩ := Text.cut?_of_splitOn_cons hsplit
    rw [Text.occurrencesFrom_cut?, hcut, commandPlaces_command, commandPlaces_literal]
    have hlength := congrArg List.length (chunk_eq hchunk)
    simp only [List.length_append] at hlength ⊢
    rw [← ih (place + first.length + m.opening.text.length) hafter hlater]
    congr 2
    omega

/-- What is said of each token that was read: it holds neither marker, and a command's text is trimmed. -/
structure Token.IsRead (m : Markers) (t : Token) : Prop where
  no_opening : ¬ m.opening.text <:+: t.raw
  no_closing : ¬ m.closing.text <:+: t.raw
  text_eq : t.text = if t.isCommand then t.raw.trim else t.raw

lemma isRead_tokensOfChunks (hfree : ∀ chunk ∈ chunks, ¬ m.opening.text <:+: chunk)
    (h : tokensOfChunks m line chunks = .ok tokens) : ∀ t ∈ tokens, t.IsRead m := by
  induction chunks generalizing line tokens with
  | nil =>
    obtain rfl : [] = tokens := by simpa [tokensOfChunks] using h
    simp
  | cons chunk rest ih =>
    obtain ⟨inside, trailing, later, hsplit, hlater, rfl⟩ := tokensOfChunks_cons_ok h
    have hchunk := hfree chunk List.mem_cons_self
    have hinside : inside <:+: chunk := ⟨[], m.closing.text ++ trailing, by simp [← chunk_eq hsplit]⟩
    have htrailing : trailing <:+: chunk :=
      ⟨inside ++ m.closing.text, [], by simp [← chunk_eq hsplit]⟩
    have hclose : ∀ piece ∈ [inside, trailing], ¬ m.closing.text <:+: piece := by
      intro piece hpiece
      exact Text.splitOn_free (t := chunk) (by rw [hsplit]; exact hpiece)
    intro t ht
    rcases List.mem_cons.1 ht with rfl | ht
    · exact ⟨fun hin => hchunk (hin.trans hinside), hclose inside (by simp), rfl⟩
    rcases List.mem_cons.1 ht with rfl | ht
    · exact ⟨fun hin => hchunk (hin.trans htrailing), hclose trailing (by simp), rfl⟩
    · exact ih (fun c hc => hfree c (List.mem_cons_of_mem _ hc)) hlater t ht

end Chunks

lemma isRead_of_tokenize {m : Markers} {template : Text} {tokens : List Token}
    (h : tokenize m template = .ok tokens) : ∀ t ∈ tokens, t.IsRead m := by
  obtain ⟨first, chunks, later, hsplit, hfirst, hlater, rfl⟩ := tokenize_ok h
  have hfree : ∀ piece ∈ first :: chunks, ¬ m.opening.text <:+: piece := by
    intro piece hpiece
    exact Text.splitOn_free (t := template) (by rw [hsplit]; exact hpiece)
  intro t ht
  rcases List.mem_cons.1 ht with rfl | ht
  · exact ⟨hfree first (by simp), Text.cut?_eq_none_iff.1 hfirst, rfl⟩
  · exact isRead_tokensOfChunks (fun c hc => hfree c (List.mem_cons_of_mem _ hc)) hlater t ht

/-- The template cut up into tokens: written again they give it back, texts and commands alternate with a
text at both ends, and a command starts exactly at each occurrence of the open marker, taken from the left
without overlap. -/
structure CutsUp (m : Markers) (template : Text) (tokens : List Token) : Prop where
  source_eq : reconstruct m tokens = template
  alternating : Alternating (tokens.map Token.kind)
  places_eq : commandPlaces m 0 tokens = template.occurrences m.opening
  length_eq : tokens.length = 2 * (template.occurrences m.opening).length + 1
  isRead : ∀ t ∈ tokens, t.IsRead m

theorem tokenize_faithful {m : Markers} {template : Text} {tokens : List Token}
    (h : tokenize m template = .ok tokens) : CutsUp m template tokens := by
  have hread := isRead_of_tokenize h
  obtain ⟨first, chunks, later, hsplit, hfirst, hlater, rfl⟩ := tokenize_ok h
  have hjoin := Text.joinWith_splitOn m.opening template
  rw [hsplit] at hjoin
  have hplaces : commandPlaces m 0 (.literal 1 first :: later) = template.occurrences m.opening := by
    rw [commandPlaces_literal, commandPlaces_tokensOfChunks 0 hsplit hlater, Text.occurrences]
  have halternating := alternating_tokensOfChunks (.literal 1 first) rfl hlater
  have hsource : reconstruct m (.literal 1 first :: later) = template := by
    rw [reconstruct_literal, reconstruct_tokensOfChunks hlater]
    exact hjoin
  have hlength := length_of_alternating m 0 _ halternating
  rw [hplaces] at hlength
  exact ⟨hsource, halternating, hplaces, hlength, hread⟩

/-- Markers that overlap each other, the open marker also itself. -/
def overlappingMarkers : Markers :=
  { Markers.default with
    opening := ⟨['a', 'b', 'a'], by decide⟩
    closing := ⟨['a', 'b'], by decide⟩ }

theorem tokenize_faithful_overlapping :
    let template := "bababa x ab c".text
    let tokens := [.literal 1 ['b'], .command 1 ['b', 'a', ' ', 'x', ' '], .literal 1 [' ', 'c']]
    tokenize overlappingMarkers template = .ok tokens ∧ CutsUp overlappingMarkers template tokens := by
  intro template tokens
  have h : tokenize overlappingMarkers template = .ok tokens := by decide +kernel
  exact ⟨h, tokenize_faithful h⟩

end TextTemplate

import TextTemplate.Proofs.Splitting
import TextTemplate.Proofs.Tokenization
import TextTemplate.Token.Scanner

/-!
# Pieces that can be read again

A template is written as a list of pieces, texts and commands in turn. The pieces are read again from
what is written exactly if the markers stand in it only where they were written: no piece holds one, and
none arises where pieces and markers meet.
-/

namespace TextTemplate

namespace Piece

/-- A piece as it stands in a template. -/
def write (m : Markers) : Piece → Text
  | (.text, t) => t
  | (.command, raw) => m.opening.text ++ raw ++ m.closing.text

/-- The text of the token that is read from a piece. -/
def text : Piece → Text
  | (.text, t) => t
  | (.command, raw) => raw.trim

/-- A template as it is written. -/
def writeAll (m : Markers) (pieces : List Piece) : Text :=
  pieces.flatMap (write m)

/-- The markers stand where they are written and nowhere else. The first text is what lies between the
last open marker and the pieces: it counts, because an open marker could start in it. -/
def Legible (m : Markers) : Text → List Piece → Prop
  | before, [(.text, t)] => ¬ m.opening.text <:+: before ++ t ∧ ¬ m.closing.text <:+: t
  | before, (.text, t) :: (.command, raw) :: rest =>
    ¬ m.opening.text <:+: before ++ t ++ m.opening.text.dropLast ∧ ¬ m.closing.text <:+: t ∧
      ¬ m.closing.text <:+: raw ++ m.closing.text.dropLast ∧ Legible m (raw ++ m.closing.text) rest
  | _, _ => False

instance decidableLegible (m : Markers) : ∀ before pieces, Decidable (Legible m before pieces)
  | before, [(.text, t)] =>
    inferInstanceAs (Decidable (¬ m.opening.text <:+: before ++ t ∧ ¬ m.closing.text <:+: t))
  | before, (.text, t) :: (.command, raw) :: rest =>
    have := decidableLegible m (raw ++ m.closing.text) rest
    inferInstanceAs (Decidable (¬ m.opening.text <:+: before ++ t ++ m.opening.text.dropLast ∧
      ¬ m.closing.text <:+: t ∧ ¬ m.closing.text <:+: raw ++ m.closing.text.dropLast ∧
      Legible m (raw ++ m.closing.text) rest))
  | _, [] => isFalse fun h => h
  | _, [(.command, _)] => isFalse fun h => h
  | _, (.text, _) :: (.text, _) :: _ => isFalse fun h => h
  | _, (.command, _) :: _ :: _ => isFalse fun h => h

end Piece

/-- The piece that a token was read from. -/
def Token.piece (t : Token) : Piece := (t.kind, t.raw)

section Legible

open Piece

variable {m : Markers}

lemma splitOn_closing {raw t : Text} (hraw : ¬ m.closing.text <:+: raw ++ m.closing.text.dropLast)
    (ht : ¬ m.closing.text <:+: t) :
    Text.splitOn m.closing (raw ++ m.closing.text ++ t) = (raw, [t]) := by
  have hcut : Text.cut? m.closing (raw ++ m.closing.text ++ t) = some (raw, t) :=
    Text.cut?_eq_some_iff.2 ⟨rfl, hraw⟩
  rw [Text.splitOn_of_cut?_some hcut, Text.splitOn_of_cut?_none (Text.cut?_eq_none_iff.2 ht)]

lemma tokensOfChunks_cons {chunk inside trailing : Text} {rest : List Text} {line : Nat}
    {later : List Token} (hsplit : chunk.splitOn m.closing = (inside, [trailing]))
    (hlater : tokensOfChunks m (line + inside.lineBreaks + trailing.lineBreaks) rest = .ok later) :
    tokensOfChunks m line (chunk :: rest) =
      .ok (.command line inside :: .literal (line + inside.lineBreaks) trailing :: later) := by
  rw [tokensOfChunks, hsplit]
  dsimp only
  rw [hlater]
  rfl

lemma tokensOfChunks_writeAll {raw : Text} {pieces : List Piece} (line : Nat)
    (hraw : ¬ m.closing.text <:+: raw ++ m.closing.text.dropLast)
    (h : Legible m (raw ++ m.closing.text) pieces) :
    let chunks := Text.splitOn m.opening (raw ++ m.closing.text ++ writeAll m pieces)
    ∃ tokens, tokensOfChunks m line (chunks.1 :: chunks.2) = .ok tokens ∧
      tokens.map Token.piece = (.command, raw) :: pieces := by
  generalize hbefore : raw ++ m.closing.text = before at h
  dsimp only
  fun_induction Legible m before pieces generalizing raw line with
  | case1 before t =>
    subst hbefore
    have hwrite : writeAll m [(.text, t)] = t := List.append_nil t
    rw [hwrite, Text.splitOn_of_cut?_none (Text.cut?_eq_none_iff.2 h.1)]
    exact ⟨_, tokensOfChunks_cons (splitOn_closing hraw h.2) rfl, rfl⟩
  | case2 before t raw' rest ih =>
    subst hbefore
    obtain ⟨hopen, ht, hraw', hrest⟩ := h
    have hwrite : raw ++ m.closing.text ++ writeAll m ((.text, t) :: (.command, raw') :: rest) =
        raw ++ m.closing.text ++ t ++ m.opening.text ++
          (raw' ++ m.closing.text ++ writeAll m rest) := by
      simp [writeAll, write]
    have hcut := Text.cut?_eq_some_iff.2 ⟨hwrite.symm, hopen⟩
    obtain ⟨later, hlater, hpieces⟩ :=
      ih (line + raw.lineBreaks + t.lineBreaks) hraw' rfl hrest
    rw [Text.splitOn_of_cut?_some hcut]
    refine ⟨_, tokensOfChunks_cons (splitOn_closing hraw ht) hlater, ?_⟩
    rw [List.map_cons, List.map_cons, hpieces]
    rfl
  | case3 => exact h.elim

/-- What is written in legible pieces is read as these pieces. -/
lemma tokenize_writeAll {pieces : List Piece} (h : Legible m [] pieces) :
    ∃ tokens, tokenize m (writeAll m pieces) = .ok tokens ∧ tokens.map Token.piece = pieces := by
  match pieces, h with
  | [(.text, t)], h =>
    have hwrite : writeAll m [(.text, t)] = t := List.append_nil t
    have hopen : Text.cut? m.opening t = none := Text.cut?_eq_none_iff.2 h.1
    refine ⟨[.literal 1 t], ?_, rfl⟩
    rw [hwrite, tokenize, Text.splitOn_of_cut?_none hopen]
    dsimp only
    rw [Text.cut?_eq_none_iff.2 h.2]
    rfl
  | (.text, t) :: (.command, raw) :: rest, h =>
    obtain ⟨hopen, ht, hraw, hrest⟩ := h
    have hwrite : writeAll m ((.text, t) :: (.command, raw) :: rest) =
        t ++ m.opening.text ++ (raw ++ m.closing.text ++ writeAll m rest) := by
      simp [writeAll, write]
    have hcut := Text.cut?_eq_some_iff.2 ⟨hwrite.symm, hopen⟩
    obtain ⟨later, hlater, hpieces⟩ := tokensOfChunks_writeAll (1 + t.lineBreaks) hraw hrest
    refine ⟨.literal 1 t :: later, ?_, ?_⟩
    · rw [tokenize, Text.splitOn_of_cut?_some hcut]
      dsimp only
      rw [Text.cut?_eq_none_iff.2 ht, hlater]
      rfl
    · rw [List.map_cons, hpieces]
      rfl

lemma legible_tokensOfChunks {t chunk : Text} {rest : List Text} {line : Nat} {tokens : List Token}
    (hsplit : t.splitOn m.opening = (chunk, rest))
    (h : tokensOfChunks m line (chunk :: rest) = .ok tokens) :
    ∃ raw pieces, tokens.map Token.piece = (.command, raw) :: pieces ∧
      ¬ m.closing.text <:+: raw ++ m.closing.text.dropLast ∧
      Legible m (raw ++ m.closing.text) pieces := by
  induction rest generalizing t chunk line tokens with
  | nil =>
    obtain ⟨inside, trailing, later, hchunk, hlater, rfl⟩ := tokensOfChunks_cons_ok h
    obtain rfl : [] = later := by simpa [tokensOfChunks] using hlater
    obtain ⟨after, hcut, hafter⟩ := Text.cut?_of_splitOn_cons hchunk
    obtain ⟨hclose, rfl⟩ := Text.cut?_of_splitOn_nil hafter
    obtain ⟨heq, hinside⟩ := Text.cut?_eq_some_iff.1 hcut
    refine ⟨inside, [(.text, trailing)], rfl, hinside, ?_, Text.cut?_eq_none_iff.1 hclose⟩
    obtain ⟨hopen, rfl⟩ := Text.cut?_of_splitOn_nil hsplit
    rw [heq]
    exact Text.cut?_eq_none_iff.1 hopen
  | cons next rest ih =>
    obtain ⟨inside, trailing, later, hchunk, hlater, rfl⟩ := tokensOfChunks_cons_ok h
    obtain ⟨after, hcut, hafter⟩ := Text.cut?_of_splitOn_cons hchunk
    obtain ⟨hclose, rfl⟩ := Text.cut?_of_splitOn_nil hafter
    obtain ⟨heq, hinside⟩ := Text.cut?_eq_some_iff.1 hcut
    obtain ⟨behind, hopen, hbehind⟩ := Text.cut?_of_splitOn_cons hsplit
    obtain ⟨raw, pieces, hpieces, hraw, hlegible⟩ := ih hbehind hlater
    refine ⟨inside, (.text, trailing) :: (.command, raw) :: pieces, ?_, hinside, ?_,
      Text.cut?_eq_none_iff.1 hclose, hraw, hlegible⟩
    · rw [List.map_cons, List.map_cons, hpieces]
      rfl
    · rw [heq]
      exact (Text.cut?_eq_some_iff.1 hopen).2

/-- Being legible is no more than is needed: whatever pieces a template is read as, they are. -/
lemma legible_of_tokenize {template : Text} {tokens : List Token}
    (h : tokenize m template = .ok tokens) : Legible m [] (tokens.map Token.piece) := by
  obtain ⟨first, chunks, later, hsplit, hfirst, hlater, rfl⟩ := tokenize_ok h
  have hclose := Text.cut?_eq_none_iff.1 hfirst
  cases chunks with
  | nil =>
    obtain rfl : [] = later := by simpa [tokensOfChunks] using hlater
    obtain ⟨hopen, rfl⟩ := Text.cut?_of_splitOn_nil hsplit
    exact ⟨Text.cut?_eq_none_iff.1 hopen, hclose⟩
  | cons chunk rest =>
    obtain ⟨after, hopen, hafter⟩ := Text.cut?_of_splitOn_cons hsplit
    obtain ⟨raw, pieces, hpieces, hraw, hlegible⟩ := legible_tokensOfChunks hafter hlater
    rw [List.map_cons, hpieces]
    exact ⟨(Text.cut?_eq_some_iff.1 hopen).2, hclose, hraw, hlegible⟩

lemma Piece.legible_of_avoids {before : Text} {pieces : List Piece} (hmarkers : m.closing.text.Avoids m.opening)
    (hbefore : before.Avoids m.opening) (halternating : Alternating (pieces.map Prod.fst))
    (hfree : ∀ piece ∈ pieces, piece.2.Avoids m.opening ∧ piece.2.Avoids m.closing) :
    Legible m before pieces := by
  generalize hkinds : pieces.map Prod.fst = kinds at halternating
  induction halternating generalizing before pieces with
  | text =>
    obtain ⟨⟨kind, t⟩, rfl, rfl⟩ := List.map_eq_singleton_iff.1 hkinds
    obtain ⟨hopening, hclosing⟩ := hfree _ List.mem_cons_self
    have hfirst := hbefore.append hopening
    constructor
    · exact hfirst.not_infix
    · exact hclosing.not_infix
  | command _ ih =>
    obtain ⟨⟨kind, t⟩, behind, rfl, rfl, hbehind⟩ := List.map_eq_cons_iff.1 hkinds
    obtain ⟨⟨kind', raw⟩, rest, rfl, rfl, hrest⟩ := List.map_eq_cons_iff.1 hbehind
    obtain ⟨⟨hopening, hclosing⟩, hlater⟩ := List.forall_mem_cons.1 hfree
    obtain ⟨hraw, hrestFree⟩ := List.forall_mem_cons.1 hlater
    refine ⟨(hbefore.append hopening).not_infix_dropLast, hclosing.not_infix, hraw.2.not_infix_dropLast, ?_⟩
    -- An open marker behind the command could start in its close marker, but for the characters.
    exact ih (hraw.1.append hmarkers) hrestFree hrest

end Legible

end TextTemplate

import TextTemplate.Proofs.Legibility

/-!
# Reading what was written again

Tokens are written as a template, and the template is read. The same pieces come back exactly if they are
legible, whatever lines and trimmed texts the tokens had. They are, in any number, where the two markers have no
character in common and no piece holds a character of either: then no marker arises where pieces and markers
meet, not even where markers stand side by side.
-/

namespace TextTemplate

variable {m : Markers}

lemma reconstruct_eq_writeAll (m : Markers) (tokens : List Token) :
    reconstruct m tokens = Piece.writeAll m (tokens.map Token.piece) := by
  have hsource : ∀ t : Token, t.source m = Piece.write m t.piece := by
    rintro ⟨kind, text, line, raw⟩
    cases kind with
    | text => rfl
    | command => rfl
  rw [reconstruct, Piece.writeAll, List.flatMap_map]
  exact List.flatMap_congr fun t _ => hsource t

/-- The pieces of some tokens are read again exactly if they are legible. -/
theorem exists_tokenize_reconstruct_iff {tokens : List Token} :
    (∃ read, tokenize m (reconstruct m tokens) = .ok read ∧
      read.map Token.piece = tokens.map Token.piece) ↔ Piece.Legible m [] (tokens.map Token.piece) := by
  constructor
  · rintro ⟨read, hread, hpieces⟩
    rw [← hpieces]
    exact legible_of_tokenize hread
  · intro h
    rw [reconstruct_eq_writeAll]
    exact tokenize_writeAll h

/-- Where the two markers share no character, tokens without a character of either are written and read again as
they were: texts and commands with the same raw texts, in the same order, and each command trimmed. -/
theorem tokenize_reconstruct {tokens : List Token} (hmarkers : m.closing.text.Avoids m.opening)
    (halternating : Alternating (tokens.map Token.kind))
    (hfree : ∀ t ∈ tokens, t.raw.Avoids m.opening ∧ t.raw.Avoids m.closing) :
    ∃ read, tokenize m (reconstruct m tokens) = .ok read ∧
      read.map Token.kind = tokens.map Token.kind ∧ read.map Token.raw = tokens.map Token.raw ∧
      ∀ t ∈ read, t.text = if t.isCommand then t.raw.trim else t.raw := by
  have hkinds : (tokens.map Token.piece).map Prod.fst = tokens.map Token.kind := List.map_map
  have hlegible : Piece.Legible m [] (tokens.map Token.piece) := by
    apply Piece.legible_of_avoids hmarkers
    · exact fun c hc => absurd hc List.not_mem_nil
    · rwa [hkinds]
    · intro piece hpiece
      obtain ⟨t, ht, rfl⟩ := List.mem_map.1 hpiece
      exact hfree t ht
  obtain ⟨read, hread, hpieces⟩ := exists_tokenize_reconstruct_iff.2 hlegible
  refine ⟨read, hread, ?_, ?_, fun t ht => (isRead_of_tokenize hread t ht).text_eq⟩
  · have h := congrArg (List.map Prod.fst) hpieces
    rwa [List.map_map, List.map_map] at h
  · have h := congrArg (List.map Prod.snd) hpieces
    rwa [List.map_map, List.map_map] at h

/-- Markers that overlap themselves and share no character. -/
def doubledMarkers : Markers :=
  { Markers.default with
    opening := ⟨['a', 'a'], by decide⟩
    closing := ⟨['b', 'b'], by decide⟩ }

/-- Two commands side by side, one of them without a character. -/
theorem tokenize_reconstruct_sideBySide :
    let tokens := [Token.literal 0 [], .command 0 [' ', 'x', ' '], .literal 0 [], .command 0 [], .literal 0 [' ']]
    Text.Avoids doubledMarkers.opening doubledMarkers.closing.text ∧ Alternating (tokens.map Token.kind) ∧
      (∀ t ∈ tokens, t.raw.Avoids doubledMarkers.opening ∧ t.raw.Avoids doubledMarkers.closing) ∧
      reconstruct doubledMarkers tokens = "aa x bbaabb ".text ∧
      ∃ read, tokenize doubledMarkers (reconstruct doubledMarkers tokens) = .ok read ∧
        read.map Token.kind = tokens.map Token.kind ∧ read.map Token.raw = tokens.map Token.raw ∧
        ∀ t ∈ read, t.text = if t.isCommand then t.raw.trim else t.raw := by
  intro tokens
  have hmarkers : Text.Avoids doubledMarkers.opening doubledMarkers.closing.text := by decide
  have halternating : Alternating (tokens.map Token.kind) := .command (.command .text)
  have hfree : ∀ t ∈ tokens, t.raw.Avoids doubledMarkers.opening ∧ t.raw.Avoids doubledMarkers.closing := by
    decide
  exact ⟨hmarkers, halternating, hfree, rfl, tokenize_reconstruct hmarkers halternating hfree⟩

end TextTemplate

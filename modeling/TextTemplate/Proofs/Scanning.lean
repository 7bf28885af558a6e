import TextTemplate.Proofs.Legibility
import TextTemplate.Proofs.Splitting

/-!
# Splitting and scanning

A template is read by splitting it at the open marker, and each piece at the close marker. A walk in one
pass knows only whether it is inside a command. Where the two markers have no character in common, an
occurrence of the one cannot overlap an occurrence of the other, and both ways lead to the same pieces or
stop for the same reason.
-/

namespace TextTemplate

/-! ## Texts without a marker in them -/

namespace Text

/-- No occurrence of a marker starts in a text that another one follows. -/
def Passed (m : Marker) (t after : Text) : Prop :=
  ∀ start, start <:+ t → start ≠ [] → ¬ m.text <+: start ++ after

section Passed

variable {m m' : Marker} {t before after : Text}

lemma Passed.tail {c : CodePoint} (h : Passed m (c :: t) after) : Passed m t after :=
  fun start hstart => h start (hstart.trans (List.suffix_cons c t))

lemma Passed.head {c : CodePoint} (h : Passed m (c :: t) after) :
    ¬ startsWith (c :: (t ++ after)) m.text = true := by
  rw [startsWith_iff]
  exact h (c :: t) (List.suffix_refl _) (List.cons_ne_nil c t)

lemma Passed.init (h : Passed m (before ++ t) after) : Passed m before (t ++ after) := by
  intro start hstart hne
  have hlonger : start ++ t <:+ before ++ t := by
    obtain ⟨lead, rfl⟩ := hstart
    exact ⟨lead, by rw [List.append_assoc]⟩
  have hpassed := h (start ++ t) hlonger (by simp [hne])
  rwa [List.append_assoc] at hpassed

lemma passed_of_cut? {whole behind : Text} (h : cut? m whole = some (before, behind)) (after : Text) :
    Passed m before (m.text ++ after) := by
  obtain ⟨-, hfirst⟩ := cut?_eq_some_iff.1 h
  intro start hstart hne hprefix
  have hlength := List.length_pos_iff.2 hne
  have hshort : m.text <+: start ++ m.text.dropLast := by
    rw [← List.append_assoc] at hprefix
    refine List.prefix_of_prefix_length_le hprefix (dropLast_prefix_append m start after) ?_
    rw [List.length_append, List.length_dropLast]
    omega
  have hinside : start ++ m.text.dropLast <:+ before ++ m.text.dropLast := by
    obtain ⟨lead, rfl⟩ := hstart
    exact ⟨lead, by rw [List.append_assoc]⟩
  exact hfirst <| hshort.isInfix.trans hinside.isInfix

lemma passed_of_absent (h : ¬ m.text <:+: t) : Passed m t [] := by
  intro start hstart _ hprefix
  rw [List.append_nil] at hprefix
  exact h <| hprefix.isInfix.trans hstart.isInfix

lemma passed_before_marker (hapart : Avoids m m'.text) (h : ¬ m.text <:+: t) :
    Passed m t (m'.text ++ after) := by
  intro start hstart hne hprefix
  by_cases hlength : m.text.length ≤ start.length
  · have hinside : m.text <+: start :=
      List.prefix_of_prefix_length_le hprefix (List.prefix_append _ _) hlength
    exact h <| hinside.isInfix.trans hstart.isInfix
  · have hbegins : start <+: m.text :=
      List.prefix_of_prefix_length_le (List.prefix_append _ _) hprefix (by omega)
    obtain ⟨tail, htail⟩ := hbegins
    obtain ⟨c, others, hm'⟩ := List.exists_cons_of_ne_nil m'.text_ne_nil
    rw [← htail, List.prefix_append_right_inj, hm'] at hprefix
    cases tail with
    | nil =>
      rw [List.append_nil] at htail
      rw [htail] at hlength
      omega
    | cons d rest =>
      obtain ⟨rfl, -⟩ := List.cons_prefix_cons.1 hprefix
      have hmem : d ∈ m.text := by
        rw [← htail]
        simp
      exact hapart d (by rw [hm']; exact List.mem_cons_self) hmem

lemma not_startsWith_of_avoids (after : Text) (hapart : Avoids m m'.text) :
    ¬ startsWith (m'.text ++ after) m.text = true := by
  obtain ⟨c, rest, hm'⟩ := List.exists_cons_of_ne_nil m'.text_ne_nil
  have hc : c ∉ m.text := hapart c (hm' ▸ List.mem_cons_self)
  rw [hm', List.cons_append]
  exact not_startsWith_cons hc _

end Passed

lemma exists_cut? {m : Marker} {t : Text} (h : m.text <:+: t) :
    ∃ before after, t.cut? m = some (before, after) := by
  cases hcut : t.cut? m with
  | none => exact absurd h (cut?_eq_none_iff.1 hcut)
  | some parts => exact ⟨parts.1, parts.2, rfl⟩

lemma Avoids.symm {m m' : Marker} (h : Avoids m m'.text) : Avoids m' m.text :=
  fun c hc hc' => h c hc' hc

lemma splitOn_behind {m : Marker} {before t first : Text} {pieces : List Text}
    (h : splitOn m (before ++ t) = (before ++ first, pieces)) : splitOn m t = (first, pieces) := by
  cases pieces with
  | nil =>
    obtain ⟨hcut, heq⟩ := cut?_of_splitOn_nil h
    obtain rfl := List.append_cancel_left heq
    apply splitOn_of_cut?_none
    rw [cut?_eq_none_iff] at hcut ⊢
    exact fun hin => hcut (hin.trans (List.suffix_append before first).isInfix)
  | cons piece rest =>
    obtain ⟨after, hcut, hafter⟩ := cut?_of_splitOn_cons h
    obtain ⟨heq, hfirst⟩ := cut?_eq_some_iff.1 hcut
    rw [List.append_assoc, List.append_assoc, List.append_cancel_left_eq, ← List.append_assoc] at heq
    rw [List.append_assoc] at hfirst
    have hbehind : cut? m t = some (first, after) := by
      refine cut?_eq_some_iff.2 ⟨heq, fun hin => hfirst (hin.trans ?_)⟩
      exact (List.suffix_append before (first ++ m.text.dropLast)).isInfix
    rw [splitOn_of_cut?_some hbehind, hafter]

end Text

/-! ## Steps of a walk -/

/-- More characters at the start of the first piece. -/
def Piece.extendAll (t : Text) : List Piece → List Piece
  | [] => []
  | (kind, raw) :: rest => (kind, t ++ raw) :: rest

section Walk

open Text

variable {m : Markers} {state : ScanState} {before after : Text}

lemma scan_step {c : CodePoint} {rest : Text} (hopening : ¬ startsWith (c :: rest) m.opening.text = true)
    (hclosing : ¬ startsWith (c :: rest) m.closing.text = true) :
    scan m state (c :: rest) = (scan m state rest).map (Piece.extend c) := by
  rw [scan]
  rw [if_neg hclosing, if_neg hopening, if_neg hopening, if_neg hclosing]
  split <;> rfl

lemma scan_pass (state : ScanState) (hopening : Passed m.opening before after)
    (hclosing : Passed m.closing before after) :
    scan m state (before ++ after) = (scan m state after).map (Piece.extendAll before) := by
  induction before with
  | nil =>
    rw [List.nil_append]
    rcases scan m state after with fault | pieces
    · rfl
    · cases pieces <;> rfl
  | cons c rest ih =>
    rw [List.cons_append, scan_step hopening.head hclosing.head, ih hopening.tail hclosing.tail]
    rcases scan m state after with fault | pieces
    · rfl
    · cases pieces <;> rfl

lemma scan_nil (hstate : state ≠ .command) : scan m state [] = .ok [(.text, [])] := by
  rw [scan, if_neg hstate]
  cases state with
  | start => rfl
  | command => exact absurd rfl hstate
  | text => rfl

lemma scan_opening (hstate : state ≠ .command) (after : Text) :
    scan m state (m.opening.text ++ after) = (scan m .command after).map ((.text, []) :: ·) := by
  have hstarts : startsWith (m.opening.text ++ after) m.opening.text = true :=
    startsWith_iff.2 (List.prefix_append _ _)
  have hdrop : (m.opening.text ++ after).drop m.opening.text.length = after := List.drop_left
  have hkind : state.kind = .text := by
    cases state with
    | start => rfl
    | command => exact absurd rfl hstate
    | text => rfl
  obtain ⟨c, rest, hc⟩ := List.exists_cons_of_ne_nil m.opening.text_ne_nil
  rw [hc, List.cons_append] at hstarts hdrop ⊢
  rw [scan]
  rw [if_neg hstate, hc, if_pos hstarts, hdrop, hkind]

lemma scan_closing (after : Text) :
    scan m .command (m.closing.text ++ after) = (scan m .text after).map ((.command, []) :: ·) := by
  have hstarts : startsWith (m.closing.text ++ after) m.closing.text = true :=
    startsWith_iff.2 (List.prefix_append _ _)
  have hdrop : (m.closing.text ++ after).drop m.closing.text.length = after := List.drop_left
  obtain ⟨c, rest, hc⟩ := List.exists_cons_of_ne_nil m.closing.text_ne_nil
  rw [hc, List.cons_append] at hstarts hdrop ⊢
  rw [scan]
  rw [if_pos rfl, hc, if_pos hstarts, hdrop]
  rfl

end Walk

/-! ## Walking through the pieces of a split -/

section Pieces

open Text

variable {m : Markers} {state : ScanState} {t first : Text} {chunks : List Text}

lemma passed_first (hsplit : t.splitOn m.opening = (first, chunks)) :
    ∃ left, t = first ++ left ∧ Passed m.opening first left := by
  cases chunks with
  | nil =>
    obtain ⟨hcut, rfl⟩ := cut?_of_splitOn_nil hsplit
    exact ⟨[], (List.append_nil _).symm, passed_of_absent (cut?_eq_none_iff.1 hcut)⟩
  | cons chunk rest =>
    obtain ⟨after, hcut, -⟩ := cut?_of_splitOn_cons hsplit
    refine ⟨m.opening.text ++ after, ?_, passed_of_cut? hcut after⟩
    rw [← List.append_assoc]
    exact (cut?_append hcut).symm

lemma scan_text_last (hstate : state ≠ .command) (hsplit : t.splitOn m.opening = (first, []))
    (hclosing : ¬ m.closing.text <:+: first) : scan m state t = .ok [(.text, first)] := by
  obtain ⟨hcut, rfl⟩ := cut?_of_splitOn_nil hsplit
  have hopen := passed_of_absent (cut?_eq_none_iff.1 hcut)
  have hwalk := scan_pass state hopen (passed_of_absent hclosing)
  rw [List.append_nil, scan_nil hstate] at hwalk
  rw [hwalk]
  exact congrArg (fun raw => Except.ok [(TokenKind.text, raw)]) (List.append_nil first)

lemma scan_command {inside trailing : Text} (hsplit : t.splitOn m.opening = (first, chunks))
    (hcut : first.cut? m.closing = some (inside, trailing)) :
    ∃ after, after.splitOn m.opening = (trailing, chunks) ∧
      scan m .command t = (scan m .text after).map ((.command, inside) :: ·) := by
  obtain ⟨left, rfl, hopen⟩ := passed_first hsplit
  obtain rfl := cut?_append hcut
  rw [List.append_assoc] at hopen
  refine ⟨trailing ++ left, ?_, ?_⟩
  · rw [List.append_assoc] at hsplit
    exact splitOn_behind hsplit
  · have hopen' := hopen.init
    rw [List.append_assoc] at hopen'
    rw [List.append_assoc, List.append_assoc, scan_pass _ hopen' (passed_of_cut? hcut (trailing ++ left)),
      scan_closing]
    rcases scan m .text (trailing ++ left) with fault | pieces
    · rfl
    · exact congrArg (fun raw => Except.ok ((TokenKind.command, raw) :: pieces)) (List.append_nil inside)

variable (hapart : Avoids m.closing m.opening.text)

include hapart

lemma scan_opening_inside (after : Text) :
    scan m .command (m.opening.text ++ after) = .error .openCommand := by
  have hstarts : startsWith (m.opening.text ++ after) m.opening.text = true :=
    startsWith_iff.2 (List.prefix_append _ _)
  have hnot := not_startsWith_of_avoids after hapart
  obtain ⟨c, rest, hc⟩ := List.exists_cons_of_ne_nil m.opening.text_ne_nil
  rw [hc, List.cons_append] at hstarts hnot ⊢
  rw [scan, if_pos rfl, if_neg hnot, hc, if_pos hstarts]

lemma scan_closing_outside (hstate : state ≠ .command) (after : Text) :
    scan m state (m.closing.text ++ after) =
      .error (if state = .start then .closeAtStart else .closeInText) := by
  have hstarts : startsWith (m.closing.text ++ after) m.closing.text = true :=
    startsWith_iff.2 (List.prefix_append _ _)
  have hnot := not_startsWith_of_avoids after hapart.symm
  obtain ⟨c, rest, hc⟩ := List.exists_cons_of_ne_nil m.closing.text_ne_nil
  rw [hc, List.cons_append] at hstarts hnot ⊢
  rw [scan, if_neg hstate, if_neg hnot, hc, if_pos hstarts]

lemma scan_text_closing (hstate : state ≠ .command) (hsplit : t.splitOn m.opening = (first, chunks))
    (hclosing : m.closing.text <:+: first) :
    scan m state t = .error (if state = .start then .closeAtStart else .closeInText) := by
  obtain ⟨left, rfl, hopen⟩ := passed_first hsplit
  obtain ⟨before, after, hcut⟩ := exists_cut? hclosing
  obtain rfl := cut?_append hcut
  rw [List.append_assoc] at hopen
  have hopen' := hopen.init
  rw [List.append_assoc] at hopen'
  rw [List.append_assoc, List.append_assoc, scan_pass _ hopen' (passed_of_cut? hcut (after ++ left)),
    scan_closing_outside hapart hstate]
  rfl

lemma scan_text {chunk : Text} {rest : List Text} (hstate : state ≠ .command)
    (hsplit : t.splitOn m.opening = (first, chunk :: rest)) (hclosing : ¬ m.closing.text <:+: first) :
    ∃ after, after.splitOn m.opening = (chunk, rest) ∧
      scan m state t = (scan m .command after).map ((.text, first) :: ·) := by
  obtain ⟨after, hcut, hafter⟩ := cut?_of_splitOn_cons hsplit
  obtain rfl := cut?_append hcut
  refine ⟨after, hafter, ?_⟩
  rw [List.append_assoc, scan_pass _ (passed_of_cut? hcut after) (passed_before_marker hapart hclosing),
    scan_opening hstate]
  rcases scan m .command after with fault | pieces
  · rfl
  · exact congrArg (fun raw => Except.ok ((TokenKind.text, raw) :: pieces)) (List.append_nil first)

lemma scan_command_open (hsplit : t.splitOn m.opening = (first, chunks))
    (hclosing : ¬ m.closing.text <:+: first) : scan m .command t = .error .openCommand := by
  cases chunks with
  | nil =>
    obtain ⟨hcut, rfl⟩ := cut?_of_splitOn_nil hsplit
    have hopen := passed_of_absent (cut?_eq_none_iff.1 hcut)
    have hwalk := scan_pass .command hopen (passed_of_absent hclosing)
    rw [List.append_nil] at hwalk
    rw [hwalk, scan]
    rfl
  | cons chunk rest =>
    obtain ⟨after, hcut, -⟩ := cut?_of_splitOn_cons hsplit
    obtain rfl := cut?_append hcut
    rw [List.append_assoc, scan_pass _ (passed_of_cut? hcut after) (passed_before_marker hapart hclosing),
      scan_opening_inside hapart]
    rfl

end Pieces

/-! ## Both readings -/

/-- How the message begins that tells why a walk stopped; the line follows. -/
def ScanFault.wording : ScanFault → String
  | closeAtStart => "Unmatched closing token on or after line "
  | closeInText => "Unexpected closing token on or after line "
  | openCommand => "Unclosed command on or after line "

/-- A failure of the template's structure tells the reason why a walk stopped. -/
def ScanFault.Told (fault : ScanFault) (f : Failure) : Prop :=
  f.kind = .structural ∧ ∃ place, f.message = fault.wording ++ place

/-- A template that was split has come to what a walk comes to: to pieces of alternating kinds, or to the
failure that tells why the walk stopped. -/
def ReadsAsScanned (read : Except Failure (List Token)) : Except ScanFault (List Piece) → Prop
  | .ok pieces =>
    ∃ tokens, read = .ok tokens ∧ tokens.map Token.piece = pieces ∧ Alternating (pieces.map (·.1))
  | .error fault => ∃ f, read = .error f ∧ fault.Told f

section Readings

open Text

variable {m : Markers}

lemma told_unmatchedClose (line : Nat) : ScanFault.closeAtStart.Told (.unmatchedClose line) :=
  ⟨rfl, (toString line).text, rfl⟩

lemma told_unexpectedClose (line : Nat) (text : Text) :
    ScanFault.closeInText.Told (.unexpectedClose line text) :=
  ⟨rfl, (toString line).text, rfl⟩

lemma told_unclosedCommand (line : Nat) (start text : Text) :
    ScanFault.openCommand.Told (.unclosedCommand line start text) := by
  refine ⟨rfl, (toString line).text ++ ": " ++ start, ?_⟩
  rw [← List.append_assoc, ← List.append_assoc]
  rfl

lemma ReadsAsScanned.cons {read : Except Failure (List Token)} {scanned : Except ScanFault (List Piece)}
    (h : ReadsAsScanned read scanned) (text command : Token) (htext : text.kind = .text)
    (hcommand : command.kind = .command) :
    ReadsAsScanned (read.map fun tokens => text :: command :: tokens)
      (scanned.map fun pieces => text.piece :: command.piece :: pieces) := by
  cases scanned with
  | error fault =>
    obtain ⟨f, rfl, hf⟩ := h
    exact ⟨f, rfl, hf⟩
  | ok pieces =>
    obtain ⟨tokens, rfl, rfl, halternating⟩ := h
    refine ⟨text :: command :: tokens, rfl, rfl, ?_⟩
    have hkinds := Alternating.command halternating
    rw [← htext, ← hcommand] at hkinds
    exact hkinds

variable (hapart : Avoids m.closing m.opening.text)

include hapart

lemma tokensOfChunks_scan {state : ScanState} {t first : Text} {chunks : List Text} (place line : Nat)
    (hstate : state ≠ .command) (hsplit : t.splitOn m.opening = (first, chunks))
    (hclosing : ¬ m.closing.text <:+: first) :
    ReadsAsScanned ((tokensOfChunks m line chunks).map (.literal place first :: ·)) (scan m state t) := by
  induction chunks generalizing state t first place line with
  | nil =>
    rw [scan_text_last hstate hsplit hclosing, tokensOfChunks]
    exact ⟨[.literal place first], rfl, rfl, .text⟩
  | cons chunk rest ih =>
    obtain ⟨after, hafter, hscan⟩ := scan_text hapart hstate hsplit hclosing
    rw [hscan, tokensOfChunks]
    rcases hchunk : chunk.splitOn m.closing with ⟨inside, _ | ⟨trailing, _ | ⟨next, more⟩⟩⟩
    · obtain ⟨hopen, -⟩ := cut?_of_splitOn_nil hchunk
      rw [scan_command_open hapart hafter (cut?_eq_none_iff.1 hopen)]
      exact ⟨_, rfl, told_unclosedCommand _ _ _⟩
    · obtain ⟨behind, hcut, hbehind⟩ := cut?_of_splitOn_cons hchunk
      obtain ⟨hclose, rfl⟩ := cut?_of_splitOn_nil hbehind
      obtain ⟨later, hlater, hcommand⟩ := scan_command hafter hcut
      have hrest := ih (line + inside.lineBreaks) (line + inside.lineBreaks + trailing.lineBreaks)
        (by decide : ScanState.text ≠ .command) hlater (cut?_eq_none_iff.1 hclose)
      have hboth := hrest.cons (.literal place first) (.command line inside) rfl rfl
      rw [hcommand]
      dsimp only
      generalize tokensOfChunks m (line + inside.lineBreaks + trailing.lineBreaks) rest = read at hboth ⊢
      generalize scan m .text later = scanned at hboth ⊢
      cases read <;> cases scanned <;> exact hboth
    · obtain ⟨behind, hcut, hbehind⟩ := cut?_of_splitOn_cons hchunk
      obtain ⟨after', hcut', -⟩ := cut?_of_splitOn_cons hbehind
      obtain ⟨later, hlater, hcommand⟩ := scan_command hafter hcut
      have hsecond : m.closing.text <:+: behind := ⟨trailing, after', cut?_append hcut'⟩
      rw [hcommand, scan_text_closing hapart (by decide) hlater hsecond]
      exact ⟨_, rfl, told_unexpectedClose _ _⟩

/-- A template is split into the pieces that a walk in one pass finds in it, and where the walk stops the
splitting fails for the same reason. -/
theorem tokenize_readsAsScanned (template : Text) :
    ReadsAsScanned (tokenize m template) (scan m .start template) := by
  rcases hsplit : template.splitOn m.opening with ⟨first, chunks⟩
  rw [tokenize, hsplit]
  dsimp only
  cases hcut : first.cut? m.closing with
  | some parts =>
    have hclosing : m.closing.text <:+: first := ⟨parts.1, parts.2, cut?_append hcut⟩
    rw [scan_text_closing hapart (by decide) hsplit hclosing]
    exact ⟨_, rfl, told_unmatchedClose _⟩
  | none =>
    have hclosing := cut?_eq_none_iff.1 hcut
    exact tokensOfChunks_scan hapart 1 (1 + first.lineBreaks) (by decide) hsplit hclosing

end Readings

/-- Both markers overlap themselves, and a second close marker follows the one that ends the command. -/
theorem tokenize_readsAsScanned_overclosed :
    let template := "\x7b\x7b\x7bx\x7d\x7d\x7d\x7d\x7d \x7b\x7by".text
    Text.Avoids Markers.default.closing Markers.default.opening.text ∧
      scan .default .start template = .error .closeInText ∧
      ∃ f, tokenize .default template = .error f ∧ ScanFault.closeInText.Told f := by
  intro template
  have hapart : Text.Avoids Markers.default.closing Markers.default.opening.text := by decide
  have hscan : scan .default .start template = .error .closeInText := by decide +kernel
  have hread := tokenize_readsAsScanned hapart template
  rw [hscan] at hread
  exact ⟨hapart, hscan, hread⟩

end TextTemplate

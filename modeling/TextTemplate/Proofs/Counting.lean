import TextTemplate.Proofs.JsonData
import TextTemplate.Proofs.Splitting
import TextTemplate.Proofs.TreeMeaning

/-!
# Counting the rows of a loop

The name of a frame, the index marker and an integer ask for the position of the row, counted from the integer.
-/

namespace TextTemplate

/-- The expression for the position of a row, counted from an offset. -/
def countPath (m : Markers) (name offset : Text) : Text :=
  Text.joinWith m.scope (name, [m.index.text, offset])

lemma Frame.lookup?_countPath_eq {m : Markers} {frames : List Frame} {frame : Frame} {name offset : Text}
    (hfind : find? frames (resolveName name) = some frame)
    (hscope : ∀ piece ∈ [name, m.index.text, offset], piece.Avoids m.scope)
    (hargs : ¬ m.args.text <:+: countPath m name offset) :
    lookup? m frames (countPath m name offset) =
      some (.ok ((offset.readInteger?.map frame.count).getD frame.key)) := by
  have hsplit : (countPath m name offset).splitOn m.scope = (name, [m.index.text, offset]) :=
    Text.splitOn_joinWith hscope
  unfold lookup?
  rw [Text.splitOn_of_cut?_none (Text.cut?_eq_none_iff.2 hargs)]
  dsimp only
  rw [hsplit]
  dsimp only
  rw [hfind, Option.map_some, answer, if_pos rfl, List.head?_cons, Option.bind_some]
  cases offset.readInteger? <;> rfl

lemma Frame.lookup?_countPath {m : Markers} {frames : List Frame} {frame : Frame} {name offset : Text}
    {k : Int} (hfind : find? frames (resolveName name) = some frame)
    (hscope : ∀ piece ∈ [name, m.index.text, offset], piece.Avoids m.scope)
    (hargs : ¬ m.args.text <:+: countPath m name offset) (hk : offset.readInteger? = some k) :
    lookup? m frames (countPath m name offset) = some (.ok (frame.count k)) := by
  rw [lookup?_countPath_eq hfind hscope hargs, hk]
  rfl

/-! ## Two rows -/

lemma Failure.tooManyDigits_of_mapError {r : Except Failure Text}
    (h : r.mapError Failure.unplaced = .error .tooManyDigits) : r = .error .tooManyDigits := by
  cases r with
  | ok t => cases h
  | error f =>
    have hf : f.unplaced = .tooManyDigits := Except.error.inj h
    cases f <;> first | rfl | cases hf

/-- Two elements with nothing in them, under the name `xs`. -/
def nullRows : Value :=
  .map [(.text ['x', 's'], .list [.null, .null])]

lemma nullRows_isJson : nullRows.IsJson := by
  apply Value.IsJson.map
  · intro entry hentry
    obtain rfl := List.mem_singleton.1 hentry
    exact ⟨_, rfl⟩
  · intro entry hentry
    obtain rfl := List.mem_singleton.1 hentry
    apply Value.IsJson.list
    intro v hv
    obtain rfl : v = .null := by simpa using hv
    exact .null

/-- Every element under `xs` by its position, counted from an offset. -/
def countingTemplate (offset : Text) : Template :=
  .loop ['x', 's'] (some ['x']) (.substitution (countPath .default ['x'] offset) .empty) .empty

def asciiDigits : Text := "0123456789".text

/-- The characters of a path that counts from ASCII digits. -/
def countCharacters : Text := "x.#".text ++ asciiDigits

section CountingTemplate

variable {offset : Text} (hoffset : ∀ c ∈ offset, c ∈ asciiDigits)

include hoffset

lemma mem_countPath {c : CodePoint} (hc : c ∈ countPath .default ['x'] offset) :
    c ∈ countCharacters := by
  have hpath : countPath .default ['x'] offset = "x.#.".text ++ offset := by
    simp [countPath, Text.joinWith, Markers.default]
    rfl
  rw [hpath] at hc
  rcases List.mem_append.1 hc with hfront | hback
  · have hnames : "x.#.".text ⊆ countCharacters := by decide
    exact hnames hfront
  · exact List.mem_append_right _ (hoffset c hback)

lemma trim_countPath : (countPath .default ['x'] offset).trim = countPath .default ['x'] offset := by
  have hclean : countCharacters.any Text.isBlank = false := by decide
  apply Text.trim_of_not_blank
  intro c hc
  simpa using List.any_eq_false.1 hclean c (mem_countPath hoffset hc)

lemma countPath_avoids {m : Marker} (hm : Text.Avoids m countCharacters) :
    (countPath .default ['x'] offset).Avoids m :=
  fun c hc => hm c (mem_countPath hoffset hc)

lemma countingTemplate_printable : (countingTemplate offset).Printable .default := by
  have hcloses : (countPath .default ['x'] offset).Avoids Markers.default.closing :=
    countPath_avoids hoffset (by decide)
  have hopens : (countPath .default ['x'] offset ++ Markers.default.closing.text).Avoids
      Markers.default.opening :=
    (countPath_avoids hoffset (by decide)).append (by decide)
  have hhead : ∃ rest, (countPath .default ['x'] offset).trim = .char 'x' :: rest := by
    rw [trim_countPath hoffset]
    exact ⟨_, rfl⟩
  obtain ⟨rest, hrest⟩ := hhead
  constructor
  · refine ⟨by decide, by decide, by decide, by decide, by decide, hcloses.not_infix_dropLast, ?_, by decide,
      by decide, by decide⟩
    rw [List.append_nil]
    exact hopens.not_infix_dropLast
  · refine ⟨⟨by decide, by decide +kernel, by decide +kernel, by decide +kernel, ?_⟩, ⟨?_, trivial⟩, trivial⟩
    · intro hend
      have hcommands : Text.loopEnd _ _ = (countPath .default ['x'] offset).trim := List.mem_singleton.1 hend
      rw [hrest] at hcommands
      cases hcommands
    · rw [hrest]
      constructor <;> simp [Markers.default]

lemma meaning_counting {e : Environment} (hmarkers : e.markers = .default) {frame : Frame}
    (hname : frame.name = [.char 'x']) {k : Int} (hk : offset.readInteger? = some k) (depth : Nat) :
    (Template.substitution (countPath .default ['x'] offset) .empty).meaning e [frame] depth =
      Environment.shown (frame.count k) := by
  have hfind : Frame.find? [frame] (Frame.resolveName ['x']) = some frame := by
    have hx : Frame.resolveName ['x'] = [.char 'x'] := by decide
    rw [hx, Frame.find?, List.find?_cons, hname]
    rfl
  have hscope : ∀ piece ∈ ["x".text, Markers.default.index.text, offset],
      Text.Avoids Markers.default.scope piece := by
    have hdigits : asciiDigits.Avoids Markers.default.scope := by decide
    intro piece hpiece
    simp only [List.mem_cons, List.not_mem_nil, or_false] at hpiece
    obtain rfl | rfl | rfl := hpiece
    · decide
    · decide
    · exact fun c hc => hdigits c (hoffset c hc)
  have hargs : (countPath .default ['x'] offset).Avoids Markers.default.args :=
    countPath_avoids hoffset (by decide)
  have hlookup := Frame.lookup?_countPath hfind hscope hargs.not_infix hk
  rw [Template.meaning, Template.meaning, Outcome.append_text, trim_countPath hoffset]
  unfold Environment.withValue
  rw [hmarkers, hlookup]

lemma meaning_countingTemplate {e : Environment} (hmarkers : e.markers = .default) (hdepth : 0 ≤ e.maxDepth)
    (hrows : e.resolve ['x', 's'] = .ok (.list [.null, .null])) {k : Int} (hk : offset.readInteger? = some k) :
    ((countingTemplate offset).meaning e [] 0).result =
      ((Environment.shown (.int k)).append (Environment.shown (.int (1 + k)))).result := by
  have hnone : Frame.lookup? e.markers [] ['x', 's'] = none := rfl
  have htarget : Text.trim ['x', 's'] = [.char 'x', .char 's'] := by decide
  have hname : ((some [.char 'x']).map Text.trim).filter (· ≠ []) = some [.char 'x'] := by decide
  have hbody : ∀ opener inner, e.body opener 0 inner = inner 1 := fun opener inner =>
    if_neg (by omega)
  unfold countingTemplate
  rw [Template.meaning, htarget, hname, Template.meaning, Outcome.append_text]
  unfold Environment.withValue
  rw [hnone, hrows]
  simp only [Value.pairs?, Value.enumerated, List.zipIdx_cons, List.zipIdx_nil, List.map_cons, List.map_nil, hbody]
  rw [List.nil_append, meaning_counting hoffset hmarkers rfl hk, List.nil_append,
    meaning_counting hoffset hmarkers rfl hk]
  have hfirst : ∀ frame : Frame, frame.row = 0 → frame.count k = .int k := by
    intro frame hrow
    rw [Frame.count, hrow, Int.zero_add]
  unfold Outcome.concat
  rw [List.foldr_cons, List.foldr_cons, List.foldr_nil, Outcome.append_text, hfirst _ rfl]
  rfl

lemma Engine.format_countingTemplate {engine : Engine} (hmarkers : engine.markers = .default)
    (hdepth : 0 ≤ engine.maxDepth) {d : DataSource}
    (hrows : (d.reply ['x', 's']).result = .ok (.list [.null, .null])) {k : Int}
    (hk : offset.readInteger? = some k) {t : Text} (hwritten : Text.writeInteger? k = some t)
    (hlast : Text.writeInteger? (1 + k) = none) :
    (engine.format d.resolver [] ((countingTemplate offset).source .default)).1 = .error .tooManyDigits := by
  have hprintable := countingTemplate_printable hoffset
  rw [← hmarkers] at hprintable ⊢
  have hrun := Render.renders_source (c := engine.context d.resolver) d.isFixed_resolver hprintable [] 0
  have hresult := (hrun {} rfl rfl rfl).result
  have hmeant : ((countingTemplate offset).meaning (engine.context d.resolver).environment [] 0).result =
      .error .tooManyDigits := by
    have hshown : (Environment.shown (.int (1 + k))).result = .error .tooManyDigits := by
      unfold Environment.shown
      rw [Value.display_int, hlast]
    have hfirst : (Environment.shown (.int k)).result = .ok t := by
      unfold Environment.shown
      rw [Value.display_int, hwritten]
    rw [meaning_countingTemplate hoffset hmarkers hdepth hrows hk]
    unfold Outcome.append
    rw [hfirst, hshown]
    rfl
  rw [hmeant] at hresult
  exact Failure.tooManyDigits_of_mapError hresult

end CountingTemplate

end TextTemplate

import Mathlib.Control.Monad.Basic
import TextTemplate.Proofs.Tokenization
import TextTemplate.Proofs.Trimming
import TextTemplate.Render.Basic
import TextTemplate.Resolver.Data
import TextTemplate.Value.Display

/-!
# Two readers of expressions

The loop stack and a data source both read expressions of the form path, then perhaps a default. The loop
stack splits at every separator and takes the first piece behind the path, trimmed, for the default; a source
cuts once, trims the path, and takes all that is left for the default. Here both are told by one walk along
the path, and compared.
-/

namespace TextTemplate

/-! ## One walk -/

lemma DataSource.reply_result {d : DataSource} (hlenient : d.strict = false) (e : Text) :
    (d.reply e).result =
      (d.root.walk? (d.segments (d.parse e).1)).map (·.getD (.text ((d.parse e).2.getD []))) := by
  unfold reply
  rcases d.parse e with ⟨path, default?⟩
  dsimp only
  rcases d.root.walk? (d.segments path) with f | _ | v
  · rfl
  · cases default? with
    | none => simp [hlenient, Except.map]
    | some default => rfl
  · rfl

lemma Value.walk?_single (name : Text) (v : Value) (segments : List Text) :
    (map [(text name, v)]).walk? (name :: segments) = v.walk? segments := by
  have hfound : valueAt? (text name) [(text name, v)] = some v := by
    simp [valueAt?, sameKey]
  rw [walk?, child?, hfound, Option.some_or]

lemma map_getD_eq_iff {found : Except Failure (Option Value)} {t t' : Text} :
    found.map (·.getD (.text t)) = found.map (·.getD (.text t')) ↔ t = t' ∨ found ≠ .ok none := by
  rcases found with f | _ | v
  · simp [Except.map]
  · simp [Except.map]
  · simp [Except.map]

/-! ## Two defaults -/

lemma DataSource.parse_path {d : DataSource} {e path : Text} {args : List Text}
    (hargs : e.splitOn d.args = (path, args)) : (d.parse e).1 = path.trim := by
  unfold parse
  cases args with
  | nil =>
    obtain ⟨hcut, rfl⟩ := Text.cut?_of_splitOn_nil hargs
    rw [hcut]
  | cons piece pieces =>
    obtain ⟨after, hcut, -⟩ := Text.cut?_of_splitOn_cons hargs
    rw [hcut]

/-- The first piece behind a path and all that is left behind it are the same default only where there is
one piece at most. -/
lemma default_eq_iff {d : DataSource} {e path : Text} {args : List Text} (htrimmed : e.trim = e)
    (hargs : e.splitOn d.args = (path, args)) :
    (args.head?.map Text.trim).getD [] = (d.parse e).2.getD [] ↔ args.length ≤ 1 := by
  cases args with
  | nil =>
    obtain ⟨hcut, -⟩ := Text.cut?_of_splitOn_nil hargs
    rw [DataSource.parse, hcut]
    simp
  | cons piece pieces =>
    obtain ⟨after, hcut, hafter⟩ := Text.cut?_of_splitOn_cons hargs
    rw [DataSource.parse, hcut]
    cases pieces with
    | nil =>
      obtain ⟨-, rfl⟩ := Text.cut?_of_splitOn_nil hafter
      simp
    | cons next later =>
      have hjoin : piece ++ (d.args.text ++ (next ++ later.flatMap fun t => d.args.text ++ t)) = after := by
        have h := Text.joinWith_splitOn d.args after
        rw [hafter] at h
        simpa [Text.joinWith] using h
      have hwhole := Text.cut?_append hcut
      have hrest : d.args.text ++ (next ++ later.flatMap fun t => d.args.text ++ t) ≠ [] := by
        simp [d.args.text_ne_nil]
      have hend := Text.trimEnd_of_trim htrimmed
      rw [← hwhole, ← hjoin, ← List.append_assoc] at hend
      have hlonger := Text.trim_length_lt (a := piece) hrest (Text.trimEnd_suffix hrest hend)
      rw [hjoin] at hlonger
      have hdiffer : piece.trim ≠ after.trim := fun h => absurd (congrArg List.length h) (by omega)
      simpa using hdiffer

/-- An expression that names a frame, and no white space behind its path. The loop stack answers as a lenient
source over the element under the frame's name, unless the default holds the separator and is needed. -/
theorem Render.lookup_eq_reply_iff (c : Context) (s : RunState) {e path name : Text}
    {args segments : List Text} {frame : Frame} (hargs : e.splitOn c.markers.args = (path, args))
    (hpath : path.splitOn c.markers.scope = (name, segments)) (hname : name ≠ Frame.defaultStem)
    (hframe : Frame.find? s.frames name = some frame)
    (hindex : segments.head? ≠ some c.markers.index.text) (htrimmed : e.trim = e)
    (hblank : path.trim = path) :
    let source : DataSource :=
      { root := .map [(.text name, frame.value)], scope := c.markers.scope, args := c.markers.args,
        strict := false }
    (lookup c e s).1 = (source.reply e).result ↔
      args.length ≤ 1 ∨ frame.value.walk? segments ≠ .ok none := by
  intro source
  have hstack : (lookup c e s).1 =
      (frame.value.walk? segments).map (·.getD (.text ((args.head?.map Text.trim).getD []))) := by
    have hanswer : Frame.lookup? c.markers s.frames e =
        some (frame.answer c.markers segments ((args.head?.map Text.trim).getD [])) := by
      unfold Frame.lookup?
      rw [hargs]
      dsimp only
      rw [hpath]
      dsimp only
      rw [Frame.resolveName, if_neg hname, hframe, Option.map_some]
    rw [← Frame.answer_eq hindex, lookup_apply, hanswer]
    cases frame.answer c.markers segments ((args.head?.map Text.trim).getD []) with
    | error f => rfl
    | ok v => rfl
  have hsource : (source.reply e).result =
      (frame.value.walk? segments).map (·.getD (.text ((source.parse e).2.getD []))) := by
    have hsegments : source.segments path = name :: segments := by
      unfold DataSource.segments
      rw [hpath]
    rw [DataSource.reply_result rfl, DataSource.parse_path hargs, hblank, hsegments, Value.walk?_single]
  rw [hstack, hsource, map_getD_eq_iff, default_eq_iff htrimmed hargs]

/-- The default markers, and no data behind the loop stack. -/
def bareContext : Context where
  markers := .default
  resolver := DataSource.resolver ⟨.map [], Markers.default.scope, Markers.default.args, false⟩
  maxDepth := 0

/-- A frame with the name `x` for an element. -/
def elementFrame (value : Value) : Frame where
  name := "x".text
  pairs := [(.int 0, value)]
  key := .int 0
  row := 0
  value := value

/-- A lenient source with an element under the name `x`. -/
def elementSource (value : Value) : DataSource :=
  ⟨.map [(.text ['x'], value)], Markers.default.scope, Markers.default.args, false⟩

/-- A missing part and a default of one piece. -/
theorem Render.lookup_eq_reply_iff_missingPart :
    let e : Text := "x.y, none".text
    let path : Text := "x.y".text
    e.splitOn bareContext.markers.args = (path, [" none".text]) ∧
      path.splitOn bareContext.markers.scope = ("x".text, ["y".text]) ∧
      (lookup bareContext e { frames := [elementFrame (.map [])] }).1 =
        ((elementSource (.map [])).reply e).result := by
  intro e path
  have hargs : e.splitOn bareContext.markers.args = (path, [" none".text]) := by decide +kernel
  have hpath : path.splitOn bareContext.markers.scope = ("x".text, ["y".text]) := by decide +kernel
  have hiff := lookup_eq_reply_iff bareContext { frames := [elementFrame (.map [])] } hargs hpath
    (by decide) rfl (by decide) (by decide) (by decide)
  exact ⟨hargs, hpath, hiff.2 (.inl (by decide))⟩

/-- A default that holds the separator is cut short by the loop stack, and a blank behind the path keeps it
from finding the part. -/
theorem Render.lookup_ne_reply :
    let cut : Text := "x.y,a,b".text
    let spaced : Text := "x.y ,d".text
    let found : Value := .map [(.text ['y'], .int 1)]
    (lookup bareContext cut { frames := [elementFrame (.map [])] }).1 ≠
        ((elementSource (.map [])).reply cut).result ∧
      (lookup bareContext spaced { frames := [elementFrame found] }).1 ≠
        ((elementSource found).reply spaced).result := by
  intro cut spaced found
  constructor
  · intro h
    have hshown := congrArg (·.bind Value.display) h
    revert hshown
    decide +kernel
  · intro h
    have hshown := congrArg (·.bind Value.display) h
    revert hshown
    decide +kernel

end TextTemplate

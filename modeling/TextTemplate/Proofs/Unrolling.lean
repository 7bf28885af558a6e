import TextTemplate.Proofs.Agreement
import TextTemplate.Proofs.DefaultBlocks
import TextTemplate.Proofs.Keys
import TextTemplate.Proofs.TreeMeaning

/-!
# Loops unrolled

A loop over data comes to what its body comes to for one key after another, with the path of the element in
the place of the loop variable. The loop stack and the source read the same parts of the same element, and
what they find of it, or the default, is shown alike.
-/

namespace TextTemplate

/-- A text without a brace. -/
def Text.IsBraceless (t : Text) : Prop :=
  t.Avoids Markers.default.opening ∧ t.Avoids Markers.default.closing

instance (t : Text) : Decidable t.IsBraceless :=
  inferInstanceAs (Decidable (_ ∧ _))

/-- A body that has only texts and parts of one value in it, each part perhaps with a default. -/
inductive Template.IsRow (x : Text) : Template → Prop
  | empty : IsRow x .empty
  | literal {text : Text} {rest : Template} (htext : text.IsBraceless) (hrest : IsRow x rest) :
      IsRow x (.literal text rest)
  | part {path : List Text} {default? : Option Text} {rest : Template} (hpath : ∀ s ∈ path, s.IsClean)
      (hdefault : ∀ d ∈ default?, d.IsBraceless ∧ d.Avoids Markers.default.args) (hrest : IsRow x rest) :
      IsRow x (.substitution (Text.written x path default?) rest)

/-- Data as a lenient source with the default markers. -/
def DataSource.lenient (data : Value) : DataSource :=
  ⟨data, Markers.default.scope, Markers.default.args, false⟩

/-! ## Reading rows -/

section Reading

variable {x : Text} {body : Template}

lemma Text.IsClean.isBraceless {t : Text} (h : t.IsClean) : t.IsBraceless :=
  ⟨h.avoids .opening, h.avoids .closing⟩

lemma Text.IsBraceless.append {a b : Text} (ha : a.IsBraceless) (hb : b.IsBraceless) : (a ++ b).IsBraceless :=
  ⟨ha.1.append hb.1, ha.2.append hb.2⟩

lemma Text.dotted_isBraceless {first : Text} {path : List Text} (hfirst : first.IsClean)
    (hpath : ∀ s ∈ path, s.IsClean) : (Text.dotted first path).IsBraceless := by
  have hsegments := Text.forall_isUnmarked hfirst.toIsUnmarked hpath
  constructor
  · exact Text.dotted_avoids (n := .opening) hsegments (by decide)
  · exact Text.dotted_avoids (n := .closing) hsegments (by decide)

lemma Text.written_isBraceless {first : Text} {path : List Text} {default? : Option Text}
    (hfirst : first.IsClean) (hpath : ∀ s ∈ path, s.IsClean) (hdefault : ∀ d ∈ default?, d.IsBraceless) :
    (Text.written first path default?).IsBraceless := by
  apply (Text.dotted_isBraceless hfirst hpath).append
  cases default? with
  | none => exact ⟨fun _ hc => absurd hc List.not_mem_nil, fun _ hc => absurd hc List.not_mem_nil⟩
  | some d => exact Text.IsBraceless.append (by decide) (hdefault d rfl)

lemma Alternating.append {a b : List TokenKind} (ha : Alternating a) (hb : Alternating b) :
    Alternating (a ++ .command :: b) := by
  induction ha with
  | text => exact .command hb
  | command _ ih => exact .command ih

lemma Template.alternating_pieces (m : Markers) (t : Template) (lead : Text) :
    Alternating ((t.pieces m lead).map (·.1)) := by
  induction t generalizing lead with
  | empty => exact .text
  | literal text rest ih => exact ih _
  | substitution expression rest ih => exact .command (ih [])
  | conditional test holds rest ihh ihr =>
    simp only [pieces, List.map_cons, List.map_append]
    exact .command ((ihh []).append (ihr []))
  | choice test holds otherwise rest ihh iho ihr =>
    simp only [pieces, List.map_cons, List.map_append, List.append_assoc]
    exact .command ((ihh []).append ((iho []).append (ihr [])))
  | loop target name? body rest ihb ihr =>
    simp only [pieces, List.map_cons, List.map_append]
    exact .command ((ihb []).append (ihr []))

lemma Template.IsRow.isBraceless (hx : x.IsClean) (h : body.IsRow x) {lead : Text} (hlead : lead.IsBraceless) :
    ∀ p ∈ body.pieces .default lead, p.2.IsBraceless := by
  induction h generalizing lead with
  | empty => simpa [pieces] using hlead
  | literal htext _ ih => exact ih (hlead.append htext)
  | part hpath hdefault _ ih =>
    have hexpression := Text.written_isBraceless hx hpath fun d hd => (hdefault d hd).1
    intro p hp
    rcases List.mem_cons.1 hp with rfl | hp
    · exact hlead
    · rcases List.mem_cons.1 hp with rfl | hp
      · exact hexpression
      · exact ih (by decide) p hp

lemma Text.IsClean.isSubstitution (hx : x.IsClean) {t : Text} (h : x <+: t) :
    t.IsSubstitution .default where
  not_ending := hx.not_isPrefix h .ending
  not_loop := hx.not_isPrefix h .loop
  not_test := hx.not_isPrefix h .test

lemma Text.isPrefix_trim_written {first : Text} {path : List Text} {default? : Option Text}
    (hfirst : first.IsClean) (hpath : ∀ s ∈ path, s.IsClean) :
    first <+: (Text.written first path default?).trim := by
  rw [Text.trim_written hfirst hpath, Text.written, Text.dotted_eq_append, List.append_assoc]
  exact List.prefix_append _ _

lemma Template.IsRow.of_mem_listing (hx : x.IsClean) (h : body.IsRow x) :
    ∀ command ∈ body.listing, command.1 = .shown ∧ x <+: command.2.trim := by
  induction h with
  | empty => exact fun _ hmem => absurd hmem List.not_mem_nil
  | literal _ _ ih => exact ih
  | part hpath _ _ ih => exact List.forall_mem_cons.2 ⟨⟨rfl, Text.isPrefix_trim_written hx hpath⟩, ih⟩

lemma Template.IsRow.distinct (hx : x.IsClean) (h : body.IsRow x) : body.Distinct .default := by
  induction h with
  | empty => trivial
  | literal _ _ ih => exact ih
  | part hpath _ _ ih => exact ⟨hx.isSubstitution (Text.isPrefix_trim_written hx hpath), ih⟩

lemma Template.IsRow.printable (hx : x.IsClean) (h : body.IsRow x) : body.Printable .default := by
  have hbraceless := h.isBraceless hx (by decide : Text.IsBraceless [])
  exact ⟨Piece.legible_of_avoids (by decide) (by decide) (body.alternating_pieces _ _) hbraceless, h.distinct hx⟩

lemma Template.IsRow.rename (hx : x.IsClean) (h : body.IsRow x) {path : List Text}
    (hpath : ∀ s ∈ path, s.IsClean) (first : Text) :
    (body.rename .default x (Text.dotted first path)).IsRow first := by
  induction h with
  | empty => exact .empty
  | literal htext _ ih => exact .literal htext ih
  | part hsegments hdefault _ ih =>
    rw [Template.rename, Text.renameFirst_written hx hsegments fun d hd => (hdefault d hd).2]
    exact .part (List.forall_mem_append.2 ⟨hpath, hsegments⟩) hdefault ih

section Loop

variable {first : Text} {path : List Text}

lemma Template.IsRow.readsAsLoop (hx : x.IsClean) (h : body.IsRow x) (hfirst : first.IsClean)
    (hpath : ∀ s ∈ path, s.IsClean) :
    ReadsAsLoop .default (Text.dotted first path) (some x) body := by
  have hsegments := Text.forall_isUnmarked hfirst.toIsUnmarked hpath
  have hplain : body.IsPlain .default := fun command hmem _ n _ =>
    hx.not_isPrefix (h.of_mem_listing hx command hmem).2 n
  rw [readsAsLoop_iff_omits hplain]
  refine ⟨Text.dotted_avoids (n := .args) hsegments (by decide), ?_, ?_⟩
  · exact fun name hname => Option.some.inj hname ▸ hx.avoids .args
  · intro e hmem
    cases (h.of_mem_listing hx _ hmem).1

lemma Template.IsRow.loop_printable (hx : x.IsClean) (h : body.IsRow x) (hfirst : first.IsClean)
    (hpath : ∀ s ∈ path, s.IsClean) :
    (Template.loop (Text.dotted first path) (some x) body .empty).Printable .default := by
  refine ⟨?_, h.readsAsLoop hx hfirst hpath, h.distinct hx, trivial⟩
  apply Piece.legible_of_avoids (by decide) (by decide) (alternating_pieces _ _ _)
  have hopener : (loopOpener .default (Text.dotted first path) (some x)).IsBraceless :=
    ((Text.IsBraceless.append (by decide) (Text.dotted_isBraceless hfirst hpath)).append (by decide)).append
      hx.isBraceless
  have hend : (Markers.default.ending.text ++
      loopOpener .default (Text.dotted first path) none).IsBraceless :=
    Text.IsBraceless.append (by decide)
      (Text.IsBraceless.append (by decide) (Text.dotted_isBraceless hfirst hpath))
  intro p hp
  simp only [pieces, List.mem_cons, List.mem_append, List.not_mem_nil, or_false] at hp
  obtain rfl | rfl | hp | rfl | rfl := hp
  · exact (by decide : Text.IsBraceless [])
  · exact hopener
  · exact h.isBraceless hx (by decide : Text.IsBraceless []) p hp
  · exact hend
  · exact (by decide : Text.IsBraceless [])

end Loop

end Reading

/-! ## Two readers of a part -/

/-- The part of a value that a path leads to, or the default. -/
def Value.part (v : Value) (path : List Text) (default? : Option Text) : Except Failure Value :=
  (v.walk? path).map (·.getD (.text ((default?.map Text.trim).getD [])))

lemma Value.IsJson.part {v : Value} (h : v.IsJson) (path : List Text) (default? : Option Text) :
    ∃ w t, v.part path default? = .ok w ∧ w.display = .ok t := by
  obtain ⟨found, hwalk, hfound⟩ := h.walk path
  rw [Value.part, hwalk]
  cases found with
  | none => exact ⟨_, _, rfl, Value.display_text _⟩
  | some w =>
    obtain ⟨t, ht⟩ := (hfound w rfl).display
    exact ⟨w, t, rfl, ht⟩

section Parts

variable {first : Text} {path : List Text} {default? : Option Text} (hfirst : first.IsClean)
  (hpath : ∀ s ∈ path, s.IsClean) (hdefault : ∀ d ∈ default?, d.Avoids Markers.default.args)

include hfirst hpath hdefault

lemma Text.splitOn_trim_written :
    Text.splitOn Markers.default.args (Text.written first path default?).trim =
      (Text.dotted first path, (default?.map Text.trimEnd).toList) := by
  rw [Text.trim_written hfirst hpath]
  exact Text.splitOn_written (Text.forall_isUnmarked hfirst.toIsUnmarked hpath) (Text.avoids_trimEnd hdefault)

lemma Frame.lookup?_written {frame : Frame} (hname : frame.name = first) (hstem : first ≠ Frame.defaultStem) :
    Frame.lookup? .default [frame] (Text.written first path default?).trim =
      some (frame.value.part path default?) := by
  have hfind : Frame.find? [frame] (Frame.resolveName first) = some frame := by
    rw [Frame.resolveName, if_neg hstem, Frame.find?, List.find?_cons, hname, beq_self_eq_true]
  have hindex : path.head? ≠ some Markers.default.index.text := by
    intro h
    have hclean := hpath _ (List.mem_of_mem_head? h)
    exact hclean.avoids .index '#' (by decide) (by decide)
  unfold Frame.lookup?
  rw [Text.splitOn_trim_written hfirst hpath hdefault]
  dsimp only
  rw [Text.splitOn_dotted (Text.forall_isUnmarked hfirst.toIsUnmarked hpath)]
  dsimp only
  rw [hfind, Option.map_some, Frame.answer_eq hindex, Text.trim_head?_trimEnd]
  rfl

lemma DataSource.reply_written (data : Value) :
    ((DataSource.lenient data).reply (Text.written first path default?).trim).result =
      data.part (first :: path) default? := by
  have hsegments := Text.forall_isUnmarked hfirst.toIsUnmarked hpath
  have hsplit := Text.splitOn_trim_written hfirst hpath hdefault
  have hshort : (default?.map Text.trimEnd).toList.length ≤ 1 := by
    cases default? <;> simp
  have hshown := (default_eq_iff (d := lenient data) (Text.trim_trim_written hfirst hpath) hsplit).2 hshort
  have hwalked : (lenient data).segments (Text.dotted first path) = first :: path := by
    unfold segments
    rw [lenient, Text.splitOn_dotted hsegments]
  rw [reply_result rfl, parse_path hsplit, Text.trim_of_not_blank (Text.dotted_not_blank hsegments), hwalked,
    ← hshown, Text.trim_head?_trimEnd]
  rfl

end Parts

/-! ## Rows -/

namespace Outcome

lemma append_ok {o p : Outcome} {t u : Text} (ho : o.result = .ok t) (hp : p.result = .ok u) :
    (o.append p).result = .ok (t ++ u) := by
  rw [append, ho, hp]
  rfl

lemma concat_ok {outcomes : List Outcome} {texts : List Text}
    (h : List.Forall₂ (fun (o : Outcome) t => o.result = .ok t) outcomes texts) :
    (concat outcomes).result = .ok texts.flatten := by
  induction h with
  | nil => rfl
  | cons hfirst _ ih => exact append_ok hfirst ih

end Outcome

lemma Environment.withValue_nil {e : Environment} {expression : Text} {v : Value}
    (hv : e.resolve expression = .ok v) (next : Value → Outcome) :
    e.withValue [] expression next = { next v with calls := expression :: (next v).calls } := by
  have hnone : Frame.lookup? e.markers [] expression = none := rfl
  rw [withValue, hnone, hv]

/-- What templates depend on that are rendered over data: the default markers, and no limit. -/
structure Environment.OverData (e : Environment) (data : Value) : Prop where
  markers : e.markers = .default
  resolve : ∀ expression, e.resolve expression = ((DataSource.lenient data).reply expression).result
  maxDepth : e.maxDepth = 0

section Rows

variable {data : Value} {first x : Text} {path : List Text} {body : Template} {e : Environment}
  (he : e.OverData data) (hx : x.IsClean) (hstem : x ≠ Frame.defaultStem) (hfirst : first.IsClean)
  (hpath : ∀ s ∈ path, s.IsClean)

include he hx hstem hfirst hpath

lemma Template.IsRow.meaning_rename (h : body.IsRow x) (frame : Frame) (hname : frame.name = x)
    (hjson : frame.value.IsJson) (helement : data.walk? (first :: path) = .ok (some frame.value))
    (depth depth' : Nat) :
    ∃ t, (body.meaning e [frame] depth).result = .ok t ∧
      ((body.rename .default x (Text.dotted first path)).meaning e [] depth').result = .ok t := by
  induction h with
  | empty => exact ⟨[], rfl, rfl⟩
  | @literal text rest _ _ ih =>
    obtain ⟨t, hframe, hdata⟩ := ih
    exact ⟨text ++ t, Outcome.append_ok rfl hframe, Outcome.append_ok rfl hdata⟩
  | @part segments default? rest hsegments hdefault _ ih =>
    obtain ⟨t, hframe, hdata⟩ := ih
    obtain ⟨w, shown, hw, hshown⟩ := hjson.part segments default?
    have hargs : ∀ d ∈ default?, d.Avoids Markers.default.args := fun d hd => (hdefault d hd).2
    have hlookup := Frame.lookup?_written hx hsegments hargs hname hstem
    have hlonger : ∀ s ∈ path ++ segments, s.IsClean := List.forall_mem_append.2 ⟨hpath, hsegments⟩
    have hreply := DataSource.reply_written hfirst hlonger hargs data
    have hsame : data.part (first :: (path ++ segments)) default? = .ok w := by
      rw [← hw, Value.part, Value.part, ← List.cons_append, Value.walk?_append, helement]
    rw [hsame, ← he.resolve] at hreply
    refine ⟨shown ++ t, Outcome.append_ok ?_ hframe, Outcome.append_ok ?_ hdata⟩
    · rw [Environment.withValue, he.markers, hlookup, hw]
      exact hshown
    · rw [Text.renameFirst_written hx hsegments hargs, Environment.withValue_nil hreply]
      exact hshown

variable {target : Value} (hwalk : data.walk? (first :: path) = .ok (some target)) (htarget : target.IsJson)

include hwalk htarget

lemma Template.IsRow.meaning_rows (h : body.IsRow x) {keys : List Text} {walked : List (Value × Value)}
    (hkeys : List.Forall₂ (fun key pair => target.child? key = .ok (some pair.2)) keys walked)
    (hclean : ∀ key ∈ keys, key.IsClean) (pairs : List (Value × Value)) (opener : Text) (row : Nat) :
    ∃ pieces,
      List.Forall₂ (fun key piece =>
        ((body.rename .default x (Text.dotted first (path ++ [key]))).meaning e [] 0).result = .ok piece)
        keys pieces ∧
      List.Forall₂ (fun (o : Outcome) piece => o.result = .ok piece)
        ((walked.zipIdx row).map fun ((key, value), row) =>
          e.body opener 0 (body.meaning e [{ name := x, pairs, key, row, value }])) pieces := by
  induction hkeys generalizing row with
  | nil => exact ⟨[], .nil, .nil⟩
  | @cons key pair keys walked hkey _ ih =>
    obtain ⟨hclean, hothers⟩ := List.forall_mem_cons.1 hclean
    obtain ⟨pieces, hdata, hframes⟩ := ih hothers (row + 1)
    have helement : data.walk? (first :: (path ++ [key])) = .ok (some pair.2) := by
      rw [← List.cons_append, Value.walk?_append, hwalk]
      dsimp only
      rw [Value.walk?, hkey]
      rfl
    obtain ⟨found, hfound, hjson⟩ := htarget.child key
    have hvalue : pair.2.IsJson := by
      rw [hkey] at hfound
      exact hjson _ (Except.ok.inj hfound ▸ rfl)
    have hlonger : ∀ s ∈ path ++ [key], s.IsClean :=
      List.forall_mem_append.2 ⟨hpath, List.forall_mem_singleton.2 hclean⟩
    let frame : Frame := { name := x, pairs, key := pair.1, row := row, value := pair.2 }
    obtain ⟨t, hframe, hpiece⟩ :=
      h.meaning_rename he hx hstem hfirst hlonger frame rfl hvalue helement 1 0
    have hbody : e.body opener 0 (body.meaning e [frame]) = body.meaning e [frame] 1 :=
      if_neg fun hdeep => hdeep.1 he.maxDepth
    refine ⟨t :: pieces, .cons hpiece hdata, .cons ?_ hframes⟩
    dsimp only
    rw [hbody]
    exact hframe

lemma Template.IsRow.meaning_loop (h : body.IsRow x) {keys : List Text} (hkeys : target.HasKeys keys) :
    ∃ pieces,
      List.Forall₂ (fun key piece =>
        ((body.rename .default x (Text.dotted first (path ++ [key]))).meaning e [] 0).result = .ok piece)
        keys pieces ∧
      ((Template.loop (Text.dotted first path) (some x) body .empty).meaning e [] 0).result =
        .ok pieces.flatten := by
  obtain ⟨pairs, hpairs, hwalked⟩ := hkeys.pairs
  let opener := Text.trim (loopOpener e.markers (Text.dotted first path) (some x))
  obtain ⟨pieces, hdata, hrows⟩ :=
    h.meaning_rows he hx hstem hfirst hpath hwalk htarget hwalked hkeys.clean pairs opener 0
  refine ⟨pieces, hdata, ?_⟩
  have hsegments := Text.forall_isUnmarked hfirst.toIsUnmarked hpath
  have htrim : (Text.dotted first path).trim = Text.dotted first path :=
    Text.trim_of_not_blank (Text.dotted_not_blank hsegments)
  have hresolve : e.resolve (Text.dotted first path) = .ok target := by
    have hreply := @DataSource.reply_written first path none hfirst hpath (by simp) data
    rw [Text.written, Text.defaultPart, List.append_nil, htrim, ← he.resolve, Value.part, hwalk] at hreply
    exact hreply
  have hname : ((some x).map Text.trim).filter (· ≠ []) = some x := by
    rw [Option.map_some, Text.trim_of_not_blank hx.not_blank]
    simp [hx.ne_nil]
  rw [meaning, htrim, hname, meaning, Outcome.append_text, Environment.withValue_nil hresolve, hpairs]
  exact Outcome.concat_ok hrows

end Rows

lemma Failure.ok_of_mapError {r : Except Failure Text} {t : Text}
    (h : r.mapError Failure.unplaced = .ok t) : r = .ok t := by
  cases r with
  | error f => cases h
  | ok u => exact h

namespace Engine

lemma format_of_meaning (engine : Engine) {r : Resolver} (hr : r.IsFixed) {t : Template}
    (ht : t.Printable engine.markers) {text : Text}
    (h : (t.meaning (engine.context r).environment [] 0).result = .ok text) :
    (engine.format r [] (t.source engine.markers)).1 = .ok text := by
  have hresult := (Render.renders_source (c := engine.context r) hr ht [] 0 {} rfl rfl rfl).result
  rw [h, Failure.mapError_ok] at hresult
  exact Failure.ok_of_mapError hresult

/-- A loop over data with nothing but parts of the element in its body comes to what the body comes to for the
keys of the target, one after another, with the path of the element in the place of the loop variable. -/
theorem format_loop_unrolled {data : Value} (hdata : data.IsJson) {first : Text} {path : List Text}
    (hfirst : first.IsClean) (hpath : ∀ s ∈ path, s.IsClean) {target : Value}
    (hwalk : data.walk? (first :: path) = .ok (some target)) {keys : List Text} (hkeys : target.HasKeys keys)
    {x : Text} (hx : x.IsClean) (hstem : x ≠ Frame.defaultStem) {body : Template} (hbody : body.IsRow x) :
    let format := fun t : Template =>
      (Engine.format ⟨Markers.default, 0⟩ (DataSource.lenient data).resolver [] (t.source .default)).1
    ∃ pieces,
      List.Forall₂ (fun key piece =>
        format (body.rename .default x (Text.dotted first (path ++ [key]))) = .ok piece) keys pieces ∧
      format (.loop (Text.dotted first path) (some x) body .empty) = .ok pieces.flatten := by
  intro format
  let engine : Engine := ⟨Markers.default, 0⟩
  let resolver := (DataSource.lenient data).resolver
  have hfixed : resolver.IsFixed := (DataSource.lenient data).isFixed_resolver
  have hover : (engine.context resolver).environment.OverData data := ⟨rfl, fun _ => rfl, rfl⟩
  obtain ⟨found, hfound, hjson⟩ := hdata.walk (first :: path)
  have htarget : target.IsJson := by
    rw [hwalk] at hfound
    exact hjson _ (Except.ok.inj hfound ▸ rfl)
  obtain ⟨pieces, hrows, hloop⟩ := hbody.meaning_loop hover hx hstem hfirst hpath hwalk htarget hkeys
  have hprinted := hbody.loop_printable hx hfirst hpath
  refine ⟨pieces, ?_, engine.format_of_meaning hfixed hprinted hloop⟩
  refine ((List.forall₂_and_left _ _).2 ⟨hkeys.clean, hrows⟩).imp fun key piece ⟨hkey, hpiece⟩ => ?_
  have hlonger : ∀ s ∈ path ++ [key], s.IsClean :=
    List.forall_mem_append.2 ⟨hpath, List.forall_mem_singleton.2 hkey⟩
  exact engine.format_of_meaning hfixed ((hbody.rename hx hlonger first).printable hfirst) hpiece

/-- A mapping with a number in it and a text, in a list in a mapping. -/
def mixedData : Value :=
  .map [(.text ['u'], .map [(.text ['x', 's'], .list [.map [(.text ['n'], .int 5)], .text ['q']])])]

/-- A part that the first element has, and the second has not. -/
theorem format_loop_unrolled_missingPart :
    let target : Value := .list [.map [(.text ['n'], .int 5)], .text ['q']]
    let body : Template := .literal ['-'] (.substitution ['i', 't', '.', 'n', ',', ' ', 'd'] .empty)
    let format := fun t : Template =>
      (Engine.format ⟨Markers.default, 0⟩ (DataSource.lenient mixedData).resolver [] (t.source .default)).1
    mixedData.IsJson ∧ mixedData.walk? [['u'], ['x', 's']] = .ok (some target) ∧
      target.HasKeys [['0'], ['1']] ∧ body.IsRow ['i', 't'] ∧
      ∃ pieces,
        List.Forall₂ (fun key piece =>
          format (body.rename .default ['i', 't'] (Text.dotted ['u'] [['x', 's'], key])) = .ok piece)
          [['0'], ['1']] pieces ∧
        format (.loop (Text.dotted ['u'] [['x', 's']]) (some ['i', 't']) body .empty) = .ok pieces.flatten := by
  intro target body format
  have helements : ∀ v ∈ [Value.map [(.text ['n'], .int 5)], .text ['q']], v.IsJson := by
    refine List.forall_mem_cons.2 ⟨.map (by simp) (List.forall_mem_singleton.2 (.int ?_)), ?_⟩
    · decide
    · exact List.forall_mem_singleton.2 (.text ['q'])
  have hdata : mixedData.IsJson := by
    refine .map (by simp) (List.forall_mem_singleton.2 (.map (by simp) (List.forall_mem_singleton.2 ?_)))
    exact .list helements
  have hwalk : mixedData.walk? [['u'], ['x', 's']] = .ok (some target) := by
    simp [mixedData, target, Value.walk?, Value.child?, Value.valueAt?, Value.sameKey]
  have hcount : 2 ≤ Text.beyond Text.maxDigits :=
    Nat.le_trans (by decide) (Text.beyond_mono (by decide : 1 ≤ Text.maxDigits))
  have hkeys : target.HasKeys [['0'], ['1']] := Value.HasKeys.list hcount
  have hpart : Template.IsRow ['i', 't']
      (.substitution (Text.written ['i', 't'] [['n']] (some [' ', 'd'])) .empty) := by
    refine .part (List.forall_mem_singleton.2 (by decide)) ?_ .empty
    intro d hd
    rw [← Option.some.inj hd]
    decide
  have hbody : body.IsRow ['i', 't'] := .literal (by decide) hpart
  have hfirst : Text.IsClean ['u'] := by decide
  have hpath : ∀ s ∈ ["xs".text], s.IsClean := List.forall_mem_singleton.2 (by decide)
  exact ⟨hdata, hwalk, hkeys, hbody,
    format_loop_unrolled hdata hfirst hpath hwalk hkeys (by decide) (by decide) hbody⟩

end Engine

end TextTemplate

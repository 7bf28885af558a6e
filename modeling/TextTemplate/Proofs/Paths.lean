import Mathlib.Tactic.Lemma
import TextTemplate.Proofs.Splitting
import TextTemplate.Template.Renaming

/-!
# Clean path segments

A segment with no white space in it and no character of a marker can stand anywhere in a path. Where it is
the first segment of an expression, another such segment, or a whole path, can take its place, and what
follows it is read as before.
-/

namespace TextTemplate.Text

/-- A text without white space and without any character of a default marker. -/
structure IsUnmarked (t : Text) : Prop where
  not_blank : ∀ c ∈ t, isBlank c = false
  avoids : ∀ n, Avoids (Markers.default.get n) t

/-- A segment that such a text is, and not the empty one. -/
structure IsClean (t : Text) : Prop extends IsUnmarked t where
  ne_nil : t ≠ []

instance (t : Text) : Decidable t.IsUnmarked :=
  have := List.decidableBAll (fun c => isBlank c = false) t
  decidable_of_iff ((∀ c ∈ t, isBlank c = false) ∧ ∀ n ∈ MarkerName.all, Avoids (Markers.default.get n) t)
    ⟨fun h => ⟨h.1, fun n => h.2 n (MarkerName.mem_all n)⟩, fun h => ⟨h.not_blank, fun n _ => h.avoids n⟩⟩

instance (t : Text) : Decidable t.IsClean :=
  decidable_of_iff (t.IsUnmarked ∧ t ≠ []) ⟨fun h => ⟨h.1, h.2⟩, fun h => ⟨h.toIsUnmarked, h.ne_nil⟩⟩

lemma isUnmarked_nil : IsUnmarked [] :=
  ⟨fun _ hc => absurd hc List.not_mem_nil, fun _ _ hc => absurd hc List.not_mem_nil⟩

section IsClean

variable {t : Text}

lemma IsClean.starts (h : t.IsClean) : ∃ c rest, t = c :: rest ∧ isBlank c = false := by
  obtain ⟨c, rest, rfl⟩ := List.exists_cons_of_ne_nil h.ne_nil
  exact ⟨c, rest, rfl, h.not_blank c List.mem_cons_self⟩

lemma IsClean.trimEnd_append (h : t.IsClean) (u : Text) : trimEnd (t ++ u) = t ++ trimEnd u := by
  have hend : trimEnd t = t := trimEnd_of_trim (trim_of_not_blank h.not_blank)
  rw [Text.trimEnd_append]
  split
  · next hu => rw [hu, hend, List.append_nil]
  · rfl

lemma IsClean.trim_append (h : t.IsClean) {lead : Text} (hlead : ∀ c ∈ lead, isBlank c = true) (u : Text) :
    trim (lead ++ (t ++ u)) = t ++ trimEnd u := by
  induction lead with
  | nil =>
    obtain ⟨c, rest, hc, hblank⟩ := h.starts
    rw [List.nil_append, ← h.trimEnd_append, hc, List.cons_append, trim_cons_of_not_blank hblank,
      trimEnd_cons_of_not_blank hblank]
  | cons c rest ih =>
    rw [List.cons_append, trim_cons_of_blank (hlead c List.mem_cons_self)]
    exact ih fun d hd => hlead d (List.mem_cons_of_mem _ hd)

lemma IsClean.not_isPrefix (h : t.IsClean) {u : Text} (hstart : t <+: u) (n : MarkerName) :
    ¬ (Markers.default.get n).text <+: u := by
  obtain ⟨c, rest, rfl⟩ := List.exists_cons_of_ne_nil h.ne_nil
  obtain ⟨d, others, hmarker⟩ := List.exists_cons_of_ne_nil (Markers.default.get n).text_ne_nil
  obtain ⟨after, rfl⟩ := hstart
  rw [hmarker, List.cons_append, List.cons_prefix_cons]
  rintro ⟨rfl, -⟩
  apply h.avoids n d List.mem_cons_self
  rw [hmarker]
  exact List.mem_cons_self

end IsClean

/-! ## The first segment of an expression -/

/-- An expression starts with a segment, behind blanks, and no more belongs to that segment. -/
structure StartsIn (expression lead segment rest : Text) : Prop where
  eq : expression = lead ++ (segment ++ rest)
  blank : ∀ c ∈ lead, isBlank c = true
  ends : (splitOn Markers.default.scope (splitOn Markers.default.args rest.trimEnd).1).1 = []

section StartsIn

variable {e lead x rest : Text}

lemma StartsIn.trim (h : e.StartsIn lead x rest) (hx : x.IsClean) : e.trim = x ++ rest.trimEnd := by
  rw [h.eq]
  exact hx.trim_append h.blank rest

lemma splitOn_args_of_clean (hx : x.IsClean) (tail : Text) :
    splitOn Markers.default.args (x ++ tail) =
      (x ++ (splitOn Markers.default.args tail).1, (splitOn Markers.default.args tail).2) :=
  splitOn_append (hx.avoids .args) tail

lemma splitOn_scope_of_clean (hx : x.IsClean) (tail : Text) :
    splitOn Markers.default.scope (x ++ tail) =
      (x ++ (splitOn Markers.default.scope tail).1, (splitOn Markers.default.scope tail).2) :=
  splitOn_append (hx.avoids .scope) tail

lemma StartsIn.firstSegment (h : e.StartsIn lead x rest) (hx : x.IsClean) :
    e.firstSegment .default = x := by
  rw [Text.firstSegment, h.trim hx, splitOn_args_of_clean hx, splitOn_scope_of_clean hx, h.ends,
    List.append_nil]

lemma StartsIn.replaceStart (h : e.StartsIn lead x rest) (hx : x.IsClean) (y : Text) :
    e.replaceStart x y = lead ++ (y ++ rest) := by
  obtain ⟨c, others, hc, hblank⟩ := hx.starts
  have hnot : ¬ isBlank c = true := by rw [hblank]; decide
  have htake : (lead ++ (x ++ rest)).takeWhile isBlank = lead := by
    rw [List.takeWhile_append_of_pos h.blank, hc, List.cons_append, List.takeWhile_cons_of_neg hnot,
      List.append_nil]
  have hdrop : (lead ++ (x ++ rest)).dropWhile isBlank = x ++ rest := by
    rw [List.dropWhile_append_of_pos h.blank, hc, List.cons_append, List.dropWhile_cons_of_neg hnot]
  rw [h.eq, Text.replaceStart, htake, hdrop, List.drop_left]

lemma StartsIn.renameFirst (h : e.StartsIn lead x rest) (hx : x.IsClean) (y : Text) :
    e.renameFirst .default x y = lead ++ (y ++ rest) := by
  rw [Text.renameFirst, if_pos (h.firstSegment hx), h.replaceStart hx]

lemma StartsIn.renamed (h : e.StartsIn lead x rest) (hx : x.IsClean) (y : Text) :
    (e.renameFirst .default x y).StartsIn lead y rest :=
  ⟨h.renameFirst hx y, h.blank, h.ends⟩

lemma exists_startsIn (hx : x.IsClean) (h : e.firstSegment .default = x) :
    ∃ lead rest, e.StartsIn lead x rest := by
  have hprefix : x <+: e.dropWhile isBlank := by
    have hsegment : x <+: e.trim := by
      rw [← h]
      exact (splitOn_fst_isPrefix _ _).trans (splitOn_fst_isPrefix _ _)
    exact hsegment.trans (trimEnd_isPrefix _)
  obtain ⟨rest, hrest⟩ := hprefix
  have heq : e = e.takeWhile isBlank ++ (x ++ rest) := by
    rw [hrest, List.takeWhile_append_dropWhile]
  have hblank : ∀ c ∈ e.takeWhile isBlank, isBlank c = true := fun c hc => List.mem_takeWhile_imp hc
  refine ⟨e.takeWhile isBlank, rest, heq, hblank, ?_⟩
  have htrim : e.trim = x ++ trimEnd rest := by
    conv_lhs => rw [heq]
    exact hx.trim_append hblank rest
  rw [firstSegment, htrim, splitOn_args_of_clean hx, splitOn_scope_of_clean hx] at h
  exact List.append_right_eq_self.1 h

lemma firstSegment_of_trim (hx : x.IsClean) (h : e.trim = x) : e.firstSegment .default = x := by
  have hargs : splitOn Markers.default.args x = (x, []) := splitOn_of_avoids (hx.avoids .args)
  have hscope : splitOn Markers.default.scope x = (x, []) := splitOn_of_avoids (hx.avoids .scope)
  rw [firstSegment, h, hargs, hscope]

lemma trim_replaceStart {y : Text} (hx : x.IsClean) (hy : y.IsClean) (h : e.trim = x) :
    (e.replaceStart x y).trim = y := by
  obtain ⟨lead, rest, hstart⟩ := exists_startsIn hx (firstSegment_of_trim hx h)
  have hrest : rest.trimEnd = [] := by
    rw [hstart.trim hx] at h
    exact List.append_right_eq_self.1 h
  rw [hstart.replaceStart hx, hy.trim_append hstart.blank, hrest, List.append_nil]

lemma renameFirst_of_ne {m : Markers} (h : e.firstSegment m ≠ x) (y : Text) : e.renameFirst m x y = e :=
  if_neg h

end StartsIn

/-! ## Expressions that are written from segments -/

/-- The path of some segments. -/
def dotted (first : Text) (path : List Text) : Text :=
  joinWith Markers.default.scope (first, path)

/-- A default as it stands behind a path. -/
def defaultPart : Option Text → Text
  | none => []
  | some d => Markers.default.args.text ++ d

/-- A path, and perhaps a default. -/
def written (first : Text) (path : List Text) (default? : Option Text) : Text :=
  dotted first path ++ defaultPart default?

section Written

variable {first : Text} {path : List Text} {default? : Option Text}

lemma dotted_eq_append (first : Text) (path : List Text) : dotted first path = first ++ dotted [] path := rfl

lemma dotted_append (first : Text) (path path' : List Text) :
    dotted first (path ++ path') = dotted first path ++ dotted [] path' := by
  rw [dotted_eq_append first path, dotted_eq_append first (path ++ path')]
  simp only [dotted, joinWith, List.flatMap_append, List.nil_append, List.append_assoc]

variable (hsegments : ∀ s ∈ first :: path, s.IsUnmarked)

include hsegments

lemma dotted_avoids {n : MarkerName} (hn : Avoids (Markers.default.get n) Markers.default.scope.text) :
    Avoids (Markers.default.get n) (dotted first path) :=
  Avoids.joinWith hn fun s hs => (hsegments s hs).avoids n

lemma dotted_not_blank : ∀ c ∈ dotted first path, isBlank c = false := by
  intro c hc
  rw [dotted, joinWith] at hc
  rcases List.mem_append.1 hc with hc | hc
  · exact (hsegments first List.mem_cons_self).not_blank c hc
  · obtain ⟨s, hs, hc⟩ := List.mem_flatMap.1 hc
    rcases List.mem_append.1 hc with hc | hc
    · obtain rfl : c = '.' := List.mem_singleton.1 hc
      decide
    · exact (hsegments s (List.mem_cons_of_mem _ hs)).not_blank c hc

lemma splitOn_dotted : splitOn Markers.default.scope (dotted first path) = (first, path) :=
  splitOn_joinWith fun s hs => (hsegments s hs).avoids .scope

lemma splitOn_written (hdefault : ∀ d ∈ default?, Avoids Markers.default.args d) :
    splitOn Markers.default.args (written first path default?) = (dotted first path, default?.toList) := by
  have hpart : splitOn Markers.default.args (defaultPart default?) = ([], default?.toList) := by
    cases default? with
    | none => exact splitOn_of_avoids (isUnmarked_nil.avoids .args)
    | some d =>
      have hjoin : defaultPart (some d) = joinWith Markers.default.args ([], [d]) := by
        simp [defaultPart, joinWith]
      rw [hjoin]
      apply splitOn_joinWith
      intro piece hpiece
      rcases List.mem_cons.1 hpiece with rfl | hd
      · exact isUnmarked_nil.avoids .args
      · exact List.mem_singleton.1 hd ▸ hdefault d rfl
  have hpath : Avoids Markers.default.args (dotted first path) := dotted_avoids (n := .args) hsegments (by decide)
  rw [written, splitOn_append hpath, hpart, List.append_nil]

lemma trimEnd_written : trimEnd (written first path default?) = written first path (default?.map trimEnd) := by
  have hpath : trimEnd (dotted first path) = dotted first path :=
    trimEnd_of_trim (trim_of_not_blank (dotted_not_blank hsegments))
  rw [written]
  cases default? with
  | none => rw [defaultPart, List.append_nil, hpath, Option.map_none, written, defaultPart, List.append_nil]
  | some d =>
    have hpart : trimEnd (defaultPart (some d)) = defaultPart (some (trimEnd d)) :=
      trimEnd_cons_of_not_blank (by decide) d
    have hne : defaultPart (some (trimEnd d)) ≠ [] := List.cons_ne_nil _ _
    rw [Text.trimEnd_append, hpart, if_neg hne]
    rfl

end Written

lemma avoids_trimEnd {m : Marker} {default? : Option Text} (h : ∀ d ∈ default?, Avoids m d) :
    ∀ d ∈ default?.map trimEnd, Avoids m d := by
  intro d hd c hc
  obtain ⟨d', hd', rfl⟩ := Option.map_eq_some_iff.1 hd
  exact h d' hd' c ((trimEnd_isPrefix d').subset hc)

section CleanPath

variable {first : Text} {path : List Text} {default? : Option Text}

lemma forall_isUnmarked (hfirst : first.IsUnmarked) (hpath : ∀ s ∈ path, s.IsClean) :
    ∀ s ∈ first :: path, s.IsUnmarked := by
  intro s hs
  rcases List.mem_cons.1 hs with rfl | hs
  · exact hfirst
  · exact (hpath s hs).toIsUnmarked

lemma written_startsIn (hpath : ∀ s ∈ path, s.IsClean)
    (hdefault : ∀ d ∈ default?, Avoids Markers.default.args d) :
    (written first path default?).StartsIn [] first (dotted [] path ++ defaultPart default?) := by
  have hsegments := forall_isUnmarked isUnmarked_nil hpath
  refine ⟨?_, fun _ hc => absurd hc List.not_mem_nil, ?_⟩
  · rw [written, dotted_eq_append, List.append_assoc]
    rfl
  · have hrest : trimEnd (dotted [] path ++ defaultPart default?) = written [] path (default?.map trimEnd) :=
      trimEnd_written hsegments
    rw [hrest, splitOn_written hsegments (avoids_trimEnd hdefault), splitOn_dotted hsegments]

lemma trim_written (hfirst : first.IsClean) (hpath : ∀ s ∈ path, s.IsClean) :
    (written first path default?).trim = written first path (default?.map trimEnd) := by
  obtain ⟨c, rest, hc, hblank⟩ := hfirst.starts
  have hwritten : written first path default? = c :: (rest ++ dotted [] path ++ defaultPart default?) := by
    rw [written, dotted_eq_append, hc, List.cons_append, List.cons_append]
  rw [← trimEnd_written (forall_isUnmarked hfirst.toIsUnmarked hpath), hwritten,
    trim_cons_of_not_blank hblank, trimEnd_cons_of_not_blank hblank]

lemma trim_trim_written (hfirst : first.IsClean) (hpath : ∀ s ∈ path, s.IsClean) :
    (written first path default?).trim.trim = (written first path default?).trim := by
  have hagain : (default?.map trimEnd).map trimEnd = default?.map trimEnd := by
    rw [Option.map_map]
    exact congrArg (Option.map · default?) (funext fun d => List.rdropWhile_idempotent isBlank d)
  rw [trim_written hfirst hpath, trim_written hfirst hpath, hagain]

lemma trim_head?_trimEnd (default? : Option Text) :
    ((default?.map trimEnd).toList.head?.map trim).getD [] = (default?.map trim).getD [] := by
  cases default? with
  | none => rfl
  | some d => exact trim_trimEnd d

lemma renameFirst_written (hfirst : first.IsClean) (hpath : ∀ s ∈ path, s.IsClean)
    (hdefault : ∀ d ∈ default?, Avoids Markers.default.args d) (other : Text) (others : List Text) :
    (written first path default?).renameFirst .default first (dotted other others) =
      written other (others ++ path) default? := by
  rw [(written_startsIn hpath hdefault).renameFirst hfirst, written, dotted_append, List.append_assoc,
    List.nil_append]

end CleanPath

end TextTemplate.Text

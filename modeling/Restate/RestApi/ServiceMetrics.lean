import Restate.Text.Str

/-! `filter_metrics` of `rest_api/service_metrics.rs`: the Prometheus text exposition cut into
groups at whitespace-only lines, and a group kept when its first decisive `# TYPE ` line
names a metric with a retained prefix. `MetricGroup` is the state of the loop over the lines;
the result is the `String` buffer that `on_group_end` fills. -/
namespace Restate.RestApi
open Str

/-- `MetricGroup`: the lines of the group so far, or `NotMatching` once it is rejected. -/
inductive MetricGroup
  | matching (items : List (List Char))
  | maybeMatching (items : List (List Char))
  | notMatching
  deriving DecidableEq, Repr

namespace MetricGroup

def onNextLine : MetricGroup → List Char → Option Bool → MetricGroup
  | .matching items, line, _ => .matching (items ++ [line])
  | .maybeMatching items, line, isMatch =>
      match isMatch with
      | some true => .matching (items ++ [line])
      | some false => .notMatching
      | none => .maybeMatching (items ++ [line])
  | .notMatching, _, _ => .notMatching

/-- `MetricGroup::on_group_end`: the next state and the buffer. -/
def onGroupEnd : MetricGroup → List Char → MetricGroup × List Char
  | .matching items, buffer =>
      let buffer := if buffer.isEmpty then buffer else buffer ++ ['\n']
      (.maybeMatching [], items.foldl (fun buffer line => buffer ++ line ++ ['\n']) buffer)
  | .maybeMatching _, buffer | .notMatching, buffer => (.maybeMatching [], buffer)

end MetricGroup

/-- `in_matching_group` of a `# TYPE ` line: whether its third whitespace-separated part
starts with a retained prefix, `None` when it has fewer than three parts. -/
def inMatchingGroup (retainPrefixes : List (List Char)) (line : List Char) : Option Bool :=
  let parts := splitWhitespace line
  if h : parts.length ≥ 3 then
    let currentMetric := parts[2]
    some (retainPrefixes.any fun pfx => startsWith currentMetric pfx)
  else none

/-- The body of the loop of `filter_metrics`: the state and the result after one line. -/
def filterMetricsStep (retainPrefixes : List (List Char)) (acc : MetricGroup × List Char)
    (line : List Char) : MetricGroup × List Char :=
  if startsWith line "# TYPE ".toList then
    (acc.1.onNextLine line (inMatchingGroup retainPrefixes line), acc.2)
  else if (trim line).isEmpty then acc.1.onGroupEnd acc.2
  else (acc.1.onNextLine line none, acc.2)

def filterMetrics (input : List Char) (retainPrefixes : List (List Char)) : List Char :=
  ((lines input).foldl (filterMetricsStep retainPrefixes) (.notMatching, [])).2

/-- `render_service_metrics`, given what `prometheus.render()` returns if there is a handle. -/
def renderServiceMetrics (prometheusRender : Option (List Char)) : List Char :=
  match prometheusRender with
  | some metricsUnfiltered => filterMetrics metricsUnfiltered ["restate_services_".toList]
  | none => []

/-- `line.trim().is_empty()`. -/
def isBlank (line : List Char) : Bool := (trim line).isEmpty

/-- The runs of lines between whitespace-only lines; every run but the last is closed by one. -/
def groups (ls : List (List Char)) : List (List (List Char)) := ls.splitOnP isBlank

/-- What a line decides about its group: `in_matching_group` for a `# TYPE ` line. -/
def lineDecision (retainPrefixes : List (List Char)) (line : List Char) : Option Bool :=
  if startsWith line "# TYPE ".toList then inMatchingGroup retainPrefixes line else none

/-- A group matches when its first `# TYPE ` line with three parts names a metric with a
retained prefix. -/
def groupMatches (retainPrefixes : List (List Char)) (group : List (List Char)) : Bool :=
  group.findSome? (lineDecision retainPrefixes) == some true

def block (group : List (List Char)) : List Char := group.flatMap (· ++ ['\n'])

/-- Groups written one after another with one more `'\n'` between two of them. -/
def renderGroups (gs : List (List (List Char))) : List Char := ['\n'].intercalate (gs.map block)

section Loop
variable (retainPrefixes : List (List Char))

/-- A `# TYPE ` line is never whitespace-only, so the loop body has two cases. -/
theorem filterMetricsStep_eq (acc : MetricGroup × List Char) (line : List Char) :
    filterMetricsStep retainPrefixes acc line =
      if isBlank line then acc.1.onGroupEnd acc.2
      else (acc.1.onNextLine line (lineDecision retainPrefixes line), acc.2) := by
  unfold filterMetricsStep lineDecision
  by_cases htype : startsWith line "# TYPE ".toList
  · have hb : isBlank line = false := by
      simpa [isBlank] using trim_ne_nil_of_startsWith htype (by decide)
    simp only [htype, hb, ite_true, ite_false, Bool.false_eq_true]
  · simp only [htype, ite_false, Bool.false_eq_true]
    rfl

def runGroup (state : MetricGroup) (group : List (List Char)) : MetricGroup :=
  group.foldl (fun state line => state.onNextLine line (lineDecision retainPrefixes line)) state

@[simp] theorem runGroup_nil (state : MetricGroup) : runGroup retainPrefixes state [] = state := rfl

@[simp] theorem runGroup_cons (state : MetricGroup) (line : List Char) (group : List (List Char)) :
    runGroup retainPrefixes state (line :: group) =
      runGroup retainPrefixes (state.onNextLine line (lineDecision retainPrefixes line)) group :=
  rfl

theorem runGroup_notMatching (group : List (List Char)) :
    runGroup retainPrefixes .notMatching group = .notMatching := by
  induction group with
  | nil => rfl
  | cons line group ih => simpa [MetricGroup.onNextLine] using ih

theorem runGroup_matching (group : List (List Char)) :
    ∀ items, runGroup retainPrefixes (.matching items) group = .matching (items ++ group) := by
  induction group with
  | nil => simp
  | cons line group ih => intro items; simp [MetricGroup.onNextLine, ih]

/-- From `MaybeMatching`, a run is decided by its first decisive line. -/
theorem runGroup_maybeMatching (group : List (List Char)) :
    ∀ items, runGroup retainPrefixes (.maybeMatching items) group =
      match group.findSome? (lineDecision retainPrefixes) with
      | some true => .matching (items ++ group)
      | some false => .notMatching
      | none => .maybeMatching (items ++ group) := by
  induction group with
  | nil => simp
  | cons line group ih =>
      intro items
      rw [runGroup_cons, List.findSome?_cons]
      rcases lineDecision retainPrefixes line with _ | _ | _
      · simp [MetricGroup.onNextLine, ih]
      · simp [MetricGroup.onNextLine, runGroup_notMatching]
      · simp [MetricGroup.onNextLine, runGroup_matching]

/-- `on_group_end` on a matching group: the buffer, a `'\n'` if it is not empty, the block. -/
def appendBlock (buffer : List Char) (group : List (List Char)) : List Char :=
  (if buffer.isEmpty then buffer else buffer ++ ['\n']) ++ block group

theorem onGroupEnd_fst (state : MetricGroup) (buffer : List Char) :
    (state.onGroupEnd buffer).1 = .maybeMatching [] := by
  cases state <;> rfl

theorem foldl_push_line (items : List (List Char)) :
    ∀ buffer : List Char, items.foldl (fun buffer line => buffer ++ line ++ ['\n']) buffer =
      buffer ++ block items := by
  induction items with
  | nil => simp [block]
  | cons line items ih => intro buffer; rw [List.foldl_cons, ih]; simp [block]

/-- A run closed from `MaybeMatching []` appends its block exactly when it matches. -/
theorem onGroupEnd_runGroup_maybeMatching (group : List (List Char)) (buffer : List Char) :
    ((runGroup retainPrefixes (.maybeMatching []) group).onGroupEnd buffer).2 =
      if groupMatches retainPrefixes group then appendBlock buffer group else buffer := by
  rw [runGroup_maybeMatching, groupMatches]
  rcases group.findSome? (lineDecision retainPrefixes) with _ | _ | _ <;>
    simp only [MetricGroup.onGroupEnd, foldl_push_line] <;> simp [appendBlock]

/-- What the loop leaves in the buffer over runs `gs`: the first run starts in `state`, each
later run in `MaybeMatching []`, and a run is closed by the whitespace-only line after it. -/
def emitRuns : MetricGroup → List Char → List (List (List Char)) → List Char
  | _, buffer, [] | _, buffer, [_] => buffer
  | state, buffer, group :: next :: gs =>
      emitRuns (.maybeMatching []) ((runGroup retainPrefixes state group).onGroupEnd buffer).2
        (next :: gs)

theorem emitRuns_cons_head (state : MetricGroup) (buffer line : List Char)
    (group : List (List Char)) (gs : List (List (List Char))) :
    emitRuns retainPrefixes state buffer ((line :: group) :: gs) =
      emitRuns retainPrefixes (state.onNextLine line (lineDecision retainPrefixes line)) buffer
        (group :: gs) := by
  cases gs <;> rfl

theorem foldl_filterMetricsStep (ls : List (List Char)) :
    ∀ acc : MetricGroup × List Char, (ls.foldl (filterMetricsStep retainPrefixes) acc).2 =
      emitRuns retainPrefixes acc.1 acc.2 (groups ls) := by
  induction ls with
  | nil => intro acc; rfl
  | cons line ls ih =>
      intro acc
      obtain ⟨next, gs, hgs⟩ := List.exists_cons_of_ne_nil (List.splitOnP_ne_nil isBlank ls)
      rw [List.foldl_cons, filterMetricsStep_eq, ih]
      unfold groups
      rw [List.splitOnP_cons, hgs]
      by_cases hb : isBlank line
      · simp only [hb, ite_true, onGroupEnd_fst]
        rfl
      · simp only [hb, ite_false, Bool.false_eq_true]
        rw [List.modifyHead_cons, emitRuns_cons_head]

/-- From `MaybeMatching []`, every closed run that matches is appended, in order. -/
theorem emitRuns_maybeMatching (gs : List (List (List Char))) :
    ∀ buffer, emitRuns retainPrefixes (.maybeMatching []) buffer gs =
      (gs.dropLast.filter (groupMatches retainPrefixes)).foldl appendBlock buffer := by
  induction gs with
  | nil => intro buffer; rfl
  | cons group gs ih =>
      intro buffer
      cases gs with
      | nil => rfl
      | cons next gs =>
          rw [emitRuns, ih, onGroupEnd_runGroup_maybeMatching, List.dropLast_cons₂,
            List.filter_cons]
          split <;> rfl

/-- From `NotMatching`, the first run is skipped whatever it holds. -/
theorem emitRuns_notMatching (gs : List (List (List Char))) :
    emitRuns retainPrefixes .notMatching [] gs =
      (gs.dropLast.tail.filter (groupMatches retainPrefixes)).foldl appendBlock [] := by
  match gs with
  | [] | [_] => rfl
  | group :: next :: gs =>
      rw [emitRuns, runGroup_notMatching, List.dropLast_cons₂, List.tail_cons,
        ← emitRuns_maybeMatching]
      rfl

theorem ne_nil_of_groupMatches {group : List (List Char)}
    (h : groupMatches retainPrefixes group) : group ≠ [] := by
  rintro rfl
  simp [groupMatches] at h

end Loop

theorem renderGroups_singleton (group : List (List Char)) : renderGroups [group] = block group := by
  simp [renderGroups, List.intercalate]

theorem renderGroups_cons_cons (group next : List (List Char)) (gs : List (List (List Char))) :
    renderGroups (group :: next :: gs) = block group ++ '\n' :: renderGroups (next :: gs) := by
  simp [renderGroups, List.intercalate, List.intersperse_cons_cons]

theorem block_infix_renderGroups {group : List (List Char)} :
    ∀ {gs : List (List (List Char))}, group ∈ gs → (block group).IsInfix (renderGroups gs)
  | [_], .head _ => by simp only [renderGroups_singleton, List.infix_refl]
  | g :: next :: gs, h => by
      rw [renderGroups_cons_cons]
      rcases List.mem_cons.mp h with rfl | h
      · exact (List.prefix_append _ _).isInfix
      · exact (block_infix_renderGroups h).trans ((List.suffix_cons _ _).trans
          (List.suffix_append _ _)).isInfix

theorem foldl_appendBlock (gs : List (List (List Char))) (hgs : ∀ g ∈ gs, g ≠ []) :
    ∀ buffer, gs.foldl appendBlock buffer =
      if gs = [] then buffer
      else (if buffer.isEmpty then buffer else buffer ++ ['\n']) ++ renderGroups gs := by
  induction gs with
  | nil => intro buffer; rfl
  | cons group gs ih =>
      intro buffer
      have hblock : (appendBlock buffer group).isEmpty = false := by
        obtain ⟨line, rest, rfl⟩ := List.exists_cons_of_ne_nil (hgs group (.head _))
        simp [appendBlock, block]
      rw [List.foldl_cons, ih fun g hg => hgs g (.tail _ hg), hblock]
      cases gs with
      | nil => simp [appendBlock, renderGroups_singleton]
      | cons next gs => simp [appendBlock, renderGroups_cons_cons]

/-- The output is the closed runs after the first one that match, rendered in order. -/
theorem filterMetrics_eq (input : List Char) (retainPrefixes : List (List Char)) :
    filterMetrics input retainPrefixes =
      renderGroups (((groups (lines input)).dropLast.tail).filter (groupMatches retainPrefixes)) := by
  rw [filterMetrics, foldl_filterMetricsStep, emitRuns_notMatching,
    foldl_appendBlock _ fun g hg => ne_nil_of_groupMatches retainPrefixes (List.mem_filter.mp hg).2]
  split
  · next h => rw [h]; rfl
  · rfl

/-- A render whose only family comes before any whitespace-only line. -/
def firstFamilyOnly : List Char :=
  "# TYPE restate_services_x counter\nrestate_services_x 1\n\n".toList

def firstFamily : List (List Char) :=
  ["# TYPE restate_services_x counter".toList, "restate_services_x 1".toList]

theorem filterMetrics_drops_first_family :
    groups (lines firstFamilyOnly) = [firstFamily, []] ∧
      groupMatches ["restate_services_".toList] firstFamily = true ∧
      filterMetrics firstFamilyOnly ["restate_services_".toList] = [] := by
  decide

theorem filterMetrics_sound (input : List Char) (retainPrefixes : List (List Char)) :
    ∃ emitted, emitted.Sublist ((groups (lines input)).dropLast.filter (groupMatches retainPrefixes)) ∧
      filterMetrics input retainPrefixes = renderGroups emitted :=
  ⟨_, (List.tail_sublist _).filter _, filterMetrics_eq input retainPrefixes⟩

theorem filterMetrics_complete_after_first (input : List Char)
    (retainPrefixes : List (List Char)) :
    ∀ group ∈ (groups (lines input)).dropLast.tail, groupMatches retainPrefixes group →
      (block group).IsInfix (filterMetrics input retainPrefixes) := fun _ hg hm => by
  rw [filterMetrics_eq]
  exact block_infix_renderGroups (List.mem_filter.mpr ⟨hg, hm⟩)

/-- A render with a second family after the first. -/
def twoFamilies : List Char :=
  "# TYPE restate_services_x counter\nrestate_services_x 1\n\n# HELP restate_services_y\n# TYPE restate_services_y gauge\nrestate_services_y 2\n\n".toList

def secondFamily : List (List Char) :=
  ["# HELP restate_services_y".toList, "# TYPE restate_services_y gauge".toList,
    "restate_services_y 2".toList]

theorem two_families_second_kept :
    secondFamily ∈ (groups (lines twoFamilies)).dropLast.tail ∧
      groupMatches ["restate_services_".toList] secondFamily = true ∧
      (block secondFamily).IsInfix (filterMetrics twoFamilies ["restate_services_".toList]) :=
  have hg : secondFamily ∈ (groups (lines twoFamilies)).dropLast.tail := by decide
  have hm : groupMatches ["restate_services_".toList] secondFamily = true := by decide
  ⟨hg, hm, filterMetrics_complete_after_first _ _ _ hg hm⟩

end Restate.RestApi

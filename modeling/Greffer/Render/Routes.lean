import Greffer.Render.Submit
import Greffer.Render.TreeBudget

/-! # The two routes of a template

A text is rendered by `renderBounded` where it is a file of its own, and by `runTreeJob` where it is
a leaf of a JSON value or of the compose.  Both submit a job to the child, and both look at the size
of their input first: the one at the text, under the cap; the other at **all texts of the tree,
under a hundred times the cap**, and nothing looks at a single leaf after that.

`routes_agree_iff` says where the routes of a text that is the only leaf of a value agree.
-/
namespace Greffer.Render
open Effects
open Compose (Yaml bind_ok_iff map_ok_iff)

/-- The knobs of the environment; zero disables a cap. -/
structure Caps where
  /-- `GREFFER_RENDER_MAX_INPUT`. -/
  maxInput : Nat
  /-- `GREFFER_RENDER_MAX_OUTPUT`. -/
  maxOutput : Nat
  /-- `GREFFER_RENDER_MEM_BYTES`. -/
  memBytes : Nat
  /-- `GREFFER_RENDER_TIMEOUT_SECONDS`. -/
  timeoutSeconds : Rat

/-- What is submitted. -/
inductive RenderJob (Context : Type) where
  /-- `_child_render`. -/
  | template (which : Which) (source : String) (context : Context)
  /-- `_child_render_tree`. -/
  | tree (tree : Yaml) (context : Context) (which : Which)

variable {Context : Type}

/-- What the child makes of a job. -/
def compute (engine : Engine Context) (maxOut : Nat) : RenderJob Context → Except RenderError Yaml
  | .template which source context =>
    (childRender engine maxOut which context source).map Yaml.str
  | .tree tree context which => treeJob engine maxOut which context tree

/-- `_run_tree_job`. -/
def runTreeJob (caps : Caps) (tree : Yaml) (context : Context) (which : Which) :
    Rendering (RenderJob Context) Yaml (Option Yaml) :=
  if caps.maxInput ≠ 0 ∧ caps.maxInput * 100 < totalLength (iterStringLeaves true tree) then
    Action.raise (.exceeded "input_too_large" (caps.maxInput * 100))
  else submitBudgeted (.tree tree context which) caps.memBytes caps.timeoutSeconds

/-- `render_bounded`. -/
def renderBounded (caps : Caps) (which : Which) (source : String) (context : Context) :
    Rendering (RenderJob Context) Yaml (Option Yaml) :=
  if caps.maxInput ≠ 0 ∧ caps.maxInput < encodedLength source then
    Action.raise (.exceeded "input_too_large" caps.maxInput)
  else submitBudgeted (.template which source context) caps.memBytes caps.timeoutSeconds

/-! ## What a route can give -/

section Gives
variable {Job V : Type} {comp : Job → Except RenderError V} {job : Job} {mem : Nat} {timeout : Rat}
  {v : V}

/-- Some run of the route ends with the value. -/
def Gives (comp : Job → Except RenderError V) (route : Rendering Job V (Option V)) (v : V) : Prop :=
  ∃ w' : Pools Job, Run (Pools.machine comp) {} route w' (.pure (.ok (some v)))

/-- **A submission gives the child's value**, and nothing else. -/
theorem gives_submit_iff : Gives comp (submitBudgeted job mem timeout) v ↔ comp job = .ok v := by
  constructor
  · rintro ⟨w', hrun⟩
    have hended := (Pools.attempts_end mem timeout 3).at_return hrun
    exact hended.value v rfl
  · intro hv
    set fresh : Pools Job := (Pools.create {} mem).2 with hfresh
    set filled : Pools Job := fresh.enqueue 0 job with hfilled
    have hget : (Pools.machine comp).serve {} (.getPool mem) (.ok 0) fresh := ⟨_, .refl, rfl⟩
    have hsubmit : (Pools.machine comp).serve fresh (.submit 0 job) (.ok 0) filled :=
      ⟨_, .refl, rfl, rfl, rfl⟩
    have hresult : (Pools.machine comp).serve filled (.result 0 timeout) (.ok v) filled :=
      ⟨_, .refl, ⟨0, job, rfl, hv⟩, rfl⟩
    exact ⟨filled, .step hget (.step hsubmit (.step hresult (.refl _ _)))⟩

/-- A route that is refused at once gives nothing. -/
theorem not_gives_raise (e : RenderError) : ¬ Gives comp (Action.raise e) v := by
  rintro ⟨w', hrun⟩
  cases hrun

end Gives

/-! ## The texts of a tree, one by one -/

section Leaves
variable {engine : Engine Context} {which : Which} {context : Context}

/-- A text of the tree, and what it is rendered to. -/
def Renders (engine : Engine Context) (which : Which) (context : Context) (s t : String) : Prop :=
  childRender engine 0 which context s = .ok t

mutual
/-- What a tree is rendered to has the renderings of its texts. -/
theorem renders_of_tree : ∀ (v : Yaml) {v' : Yaml} {left : Nat},
    childRenderTree engine 0 which context 0 v = .ok (v', left) →
      List.Forall₂ (Renders engine which context) (iterStringLeaves false v)
        (iterStringLeaves false v')
  | .str s, v', left, h => by
    rw [childRenderTree] at h
    obtain ⟨out, hout, h⟩ := bind_ok_iff.mp h
    rw [draw_zero] at h
    cases h
    rw [iterStringLeaves, iterStringLeaves]
    exact .cons hout .nil
  | .list items, v', left, h => by
    rw [childRenderTree] at h
    obtain ⟨⟨items', left'⟩, hitems, h⟩ := bind_ok_iff.mp h
    cases h
    rw [iterStringLeaves, iterStringLeaves]
    exact renders_of_items items hitems
  | .dict entries, v', left, h => by
    rw [childRenderTree] at h
    obtain ⟨⟨entries', left'⟩, hentries, h⟩ := bind_ok_iff.mp h
    cases h
    rw [iterStringLeaves, iterStringLeaves]
    exact renders_of_values entries hentries
  | .null, v', left, h | .bool _, v', left, h | .int _, v', left, h | .float _ _, v', left, h
  | .other _ _ _ _ _, v', left, h => by
    rw [childRenderTree] at h
    · cases h
      rw [iterStringLeaves]
      · exact .nil
      all_goals (intros; contradiction)
    all_goals (intros; contradiction)

theorem renders_of_items : ∀ (items : List Yaml) {items' : List Yaml} {left : Nat},
    childRenderAll engine 0 which context 0 items = .ok (items', left) →
      List.Forall₂ (Renders engine which context) (iterItems false items) (iterItems false items')
  | [], items', left, h => by
    rw [childRenderAll] at h
    cases h
    exact .nil
  | v :: vs, items', left, h => by
    rw [childRenderAll] at h
    obtain ⟨⟨v', between⟩, hv, h⟩ := bind_ok_iff.mp h
    obtain ⟨⟨vs', left'⟩, hvs, h⟩ := bind_ok_iff.mp h
    cases h
    obtain rfl := childRenderTree_left v hv
    rw [iterItems, iterItems]
    exact List.rel_append (renders_of_tree v hv) (renders_of_items vs hvs)

theorem renders_of_values :
    ∀ (entries : List (Yaml × Yaml)) {entries' : List (Yaml × Yaml)} {left : Nat},
    childRenderValues engine 0 which context 0 entries = .ok (entries', left) →
      List.Forall₂ (Renders engine which context) (iterValues false entries)
        (iterValues false entries')
  | [], entries', left, h => by
    rw [childRenderValues] at h
    cases h
    exact .nil
  | (k, v) :: es, entries', left, h => by
    rw [childRenderValues] at h
    obtain ⟨⟨v', between⟩, hv, h⟩ := bind_ok_iff.mp h
    obtain ⟨⟨es', left'⟩, hes, h⟩ := bind_ok_iff.mp h
    cases h
    obtain rfl := childRenderTree_left v hv
    rw [iterValues, iterValues]
    exact List.rel_append (renders_of_tree v hv) (renders_of_values es hes)
end

mutual
/-- A tree is rendered, where each of its texts is. -/
theorem tree_of_renders : ∀ (v : Yaml),
    (∀ s ∈ iterStringLeaves false v, ∃ t, Renders engine which context s t) →
      ∃ v', childRenderTree engine 0 which context 0 v = .ok (v', 0)
  | .str s, h => by
    rw [iterStringLeaves] at h
    obtain ⟨t, ht⟩ := h s List.mem_cons_self
    rw [childRenderTree]
    exact ⟨.str t, bind_ok_iff.mpr ⟨t, ht, rfl⟩⟩
  | .list items, h => by
    rw [iterStringLeaves] at h
    obtain ⟨items', hitems⟩ := items_of_renders items h
    rw [childRenderTree]
    exact ⟨.list items', bind_ok_iff.mpr ⟨_, hitems, rfl⟩⟩
  | .dict entries, h => by
    rw [iterStringLeaves] at h
    obtain ⟨entries', hentries⟩ := values_of_renders entries h
    rw [childRenderTree]
    exact ⟨.dict entries', bind_ok_iff.mpr ⟨_, hentries, rfl⟩⟩
  | .null, _ => ⟨.null, by rw [childRenderTree]; rfl; all_goals (intros; contradiction)⟩
  | .bool b, _ => ⟨.bool b, by rw [childRenderTree]; rfl; all_goals (intros; contradiction)⟩
  | .int n, _ => ⟨.int n, by rw [childRenderTree]; rfl; all_goals (intros; contradiction)⟩
  | .float q text, _ =>
    ⟨.float q text, by rw [childRenderTree]; rfl; all_goals (intros; contradiction)⟩
  | .other type text truthy hashable items, _ =>
    ⟨.other type text truthy hashable items,
      by rw [childRenderTree]; rfl; all_goals (intros; contradiction)⟩

theorem items_of_renders : ∀ (items : List Yaml),
    (∀ s ∈ iterItems false items, ∃ t, Renders engine which context s t) →
      ∃ items', childRenderAll engine 0 which context 0 items = .ok (items', 0)
  | [], _ => ⟨[], by rw [childRenderAll]; rfl⟩
  | v :: vs, h => by
    rw [iterItems] at h
    obtain ⟨hv, hvs⟩ := List.forall_mem_append.mp h
    obtain ⟨v', hv'⟩ := tree_of_renders v hv
    obtain ⟨vs', hvs'⟩ := items_of_renders vs hvs
    rw [childRenderAll]
    exact ⟨v' :: vs', bind_ok_iff.mpr ⟨_, hv', bind_ok_iff.mpr ⟨_, hvs', rfl⟩⟩⟩

theorem values_of_renders : ∀ (entries : List (Yaml × Yaml)),
    (∀ s ∈ iterValues false entries, ∃ t, Renders engine which context s t) →
      ∃ entries', childRenderValues engine 0 which context 0 entries = .ok (entries', 0)
  | [], _ => ⟨[], by rw [childRenderValues]; rfl⟩
  | (k, v) :: es, h => by
    rw [iterValues] at h
    obtain ⟨hv, hes⟩ := List.forall_mem_append.mp h
    obtain ⟨v', hv'⟩ := tree_of_renders v hv
    obtain ⟨es', hes'⟩ := values_of_renders es hes
    rw [childRenderValues]
    exact ⟨(k, v') :: es', bind_ok_iff.mpr ⟨_, hv', bind_ok_iff.mpr ⟨_, hes', rfl⟩⟩⟩
end

variable {maxOut : Nat} {v : Yaml} {s : String}

/-- The job of a tree with one text renders that text. -/
theorem leaf_of_treeJob (hleaf : iterStringLeaves false v = [s]) {v' : Yaml}
    (h : treeJob engine maxOut which context v = .ok v') :
    ∃ t, iterStringLeaves false v' = [t] ∧ childRender engine maxOut which context s = .ok t := by
  have hone {left : Nat} (hv : childRenderTree engine 0 which context 0 v = .ok (v', left)) :
      ∃ t, iterStringLeaves false v' = [t] ∧ Renders engine which context s t := by
    have hall := renders_of_tree v hv
    rw [hleaf] at hall
    generalize iterStringLeaves false v' = texts at hall
    cases hall with
    | cons ht hrest =>
      cases hrest
      exact ⟨_, rfl, ht⟩
  by_cases hcap : maxOut = 0
  · subst hcap
    obtain ⟨⟨v'', left⟩, hv, rfl⟩ := map_ok_iff.mp h
    exact hone hv
  · obtain ⟨hplain, left, hsizes, -⟩ := (treeJob_ok_iff hcap).mp h
    obtain ⟨⟨v'', left'⟩, hv, rfl⟩ := map_ok_iff.mp hplain
    obtain ⟨t, htexts, ht⟩ := hone hv
    refine ⟨t, htexts, (childRender_ok_iff hcap).mpr ⟨ht, hsizes t ?_⟩⟩
    rw [htexts]
    exact List.mem_cons_self

/-- Where the text is rendered, the job of the tree succeeds. -/
theorem treeJob_of_leaf (hleaf : iterStringLeaves false v = [s]) {t : String}
    (h : childRender engine maxOut which context s = .ok t) :
    ∃ v', treeJob engine maxOut which context v = .ok v' := by
  have htree (ht : Renders engine which context s t) :
      ∃ v', treeJob engine 0 which context v = .ok v' := by
    have hall : ∀ s' ∈ iterStringLeaves false v, ∃ t, Renders engine which context s' t := by
      intro s' hs'
      rw [hleaf] at hs'
      exact ⟨t, List.mem_singleton.mp hs' ▸ ht⟩
    obtain ⟨v', hv'⟩ := tree_of_renders v hall
    exact ⟨v', map_ok_iff.mpr ⟨_, hv', rfl⟩⟩
  by_cases hcap : maxOut = 0
  · subst hcap
    exact htree h
  · obtain ⟨ht, hsize⟩ := (childRender_ok_iff hcap).mp h
    obtain ⟨v', hv'⟩ := htree ht
    obtain ⟨t', htexts, ht'⟩ := leaf_of_treeJob hleaf hv'
    obtain rfl : t = t' := Except.ok.inj (ht.symm.trans ht')
    refine ⟨v', (treeJob_ok_iff hcap).mpr ⟨hv', maxOut - encodedLength t, ?_, ?_⟩⟩
    · rw [htexts]
      exact fun u hu => List.mem_singleton.mp hu ▸ hsize
    · rw [htexts]
      refine bind_ok_iff.mpr ⟨maxOut - encodedLength t, ?_, rfl⟩
      unfold draw
      rw [if_neg hcap, if_neg (by omega)]

end Leaves

/-! ## The two routes -/

section Routes
variable (engine : Engine Context) (caps : Caps) (which : Which) (context : Context) (v : Yaml)
  (s : String)

/-- The route of a tree looks at the sizes of all texts, keys included. -/
def TreeAccepted : Prop :=
  caps.maxInput = 0 ∨ totalLength (iterStringLeaves true v) ≤ caps.maxInput * 100

/-- The route of a text looks at its size. -/
def TextAccepted : Prop := caps.maxInput = 0 ∨ encodedLength s ≤ caps.maxInput

/-- The two routes of a text that is the only leaf of a value. -/
structure RoutesAgree : Prop where
  text : ∀ t, Gives (compute engine caps.maxOutput) (renderBounded caps which s context) (.str t) →
    ∃ v', Gives (compute engine caps.maxOutput) (runTreeJob caps v context which) v' ∧
      iterStringLeaves false v' = [t]
  tree : ∀ v', Gives (compute engine caps.maxOutput) (runTreeJob caps v context which) v' →
    ∃ t, iterStringLeaves false v' = [t] ∧
      Gives (compute engine caps.maxOutput) (renderBounded caps which s context) (.str t)

variable {engine caps which context v s}

theorem gives_tree_iff {v' : Yaml} :
    Gives (compute engine caps.maxOutput) (runTreeJob caps v context which) v' ↔
      TreeAccepted caps v ∧ treeJob engine caps.maxOutput which context v = .ok v' := by
  unfold runTreeJob TreeAccepted
  split
  · rename_i hover
    refine ⟨fun h => absurd h (not_gives_raise _), fun h => ?_⟩
    have := h.1
    omega
  · rename_i hwithin
    rw [gives_submit_iff]
    exact ⟨fun h => ⟨by omega, h⟩, fun h => h.2⟩

theorem gives_text_iff {t : String} :
    Gives (compute engine caps.maxOutput) (renderBounded caps which s context) (.str t) ↔
      TextAccepted caps s ∧ childRender engine caps.maxOutput which context s = .ok t := by
  unfold renderBounded TextAccepted
  split
  · rename_i hover
    refine ⟨fun h => absurd h (not_gives_raise _), fun h => ?_⟩
    have := h.1
    omega
  · rename_i hwithin
    rw [gives_submit_iff, compute, map_ok_iff]
    constructor
    · rintro ⟨out, hout, hstr⟩
      obtain rfl := Yaml.str.inj hstr
      exact ⟨by omega, hout⟩
    · exact fun h => ⟨t, h.2, rfl⟩

/-- **The routes agree** exactly where both look at the input in the same way, or the child refuses
the text. -/
theorem routes_agree_iff (hleaf : iterStringLeaves false v = [s]) :
    RoutesAgree engine caps which context v s ↔
      (TextAccepted caps s ↔ TreeAccepted caps v) ∨
        ∀ t, childRender engine caps.maxOutput which context s ≠ .ok t := by
  constructor
  · intro h
    by_cases hrenders : ∃ t, childRender engine caps.maxOutput which context s = .ok t
    · obtain ⟨t, ht⟩ := hrenders
      obtain ⟨v', hv'⟩ := treeJob_of_leaf hleaf ht
      refine .inl ⟨fun htext => ?_, fun htree => ?_⟩
      · obtain ⟨v'', hgives, -⟩ := h.text t (gives_text_iff.mpr ⟨htext, ht⟩)
        exact (gives_tree_iff.mp hgives).1
      · obtain ⟨t', -, hgives⟩ := h.tree v' (gives_tree_iff.mpr ⟨htree, hv'⟩)
        exact (gives_text_iff.mp hgives).1
    · exact .inr fun t ht => hrenders ⟨t, ht⟩
  · intro h
    refine ⟨fun t hgives => ?_, fun v' hgives => ?_⟩
    · obtain ⟨haccepted, ht⟩ := gives_text_iff.mp hgives
      obtain hsame | hnone := h
      · obtain ⟨v', hv'⟩ := treeJob_of_leaf hleaf ht
        obtain ⟨t', htexts, ht'⟩ := leaf_of_treeJob hleaf hv'
        obtain rfl : t = t' := Except.ok.inj (ht.symm.trans ht')
        exact ⟨v', gives_tree_iff.mpr ⟨hsame.mp haccepted, hv'⟩, htexts⟩
      · exact absurd ht (hnone t)
    · obtain ⟨haccepted, hv'⟩ := gives_tree_iff.mp hgives
      obtain ⟨t, htexts, ht⟩ := leaf_of_treeJob hleaf hv'
      obtain hsame | hnone := h
      · exact ⟨t, htexts, gives_text_iff.mpr ⟨hsame.mpr haccepted, ht⟩⟩
      · exact absurd ht (hnone t)

end Routes

/-- Caps for the input only. -/
def inputCap (n : Nat) : Caps := { maxInput := n, maxOutput := 0, memBytes := 0, timeoutSeconds := 5 }

/-- A value with one text. -/
def single : Yaml := .list [.str "ab"]

/-- Within the cap, the routes agree. -/
theorem routes_agree_single : RoutesAgree echo (inputCap 2) .file () single "ab" := by
  refine (routes_agree_iff rfl).mpr (.inl ⟨fun _ => .inr ?_, fun _ => .inr ?_⟩) <;> decide

/-- **A text of two bytes under a cap of one** is refused by itself, and goes through as a leaf. -/
theorem routes_differ : ¬ RoutesAgree echo (inputCap 1) .file () single "ab" := by
  intro h
  obtain hsame | hnone := (routes_agree_iff rfl).mp h
  · have htext : TextAccepted (inputCap 1) "ab" := hsame.mpr (.inr (by decide))
    obtain hzero | hsize := htext
    · exact absurd hzero (by decide)
    · exact absurd hsize (by decide)
  · exact hnone "ab" rfl

end Greffer.Render

import Greffer.Compose.Normalized
import Greffer.Render.Budget

/-! # The budget of a tree

What a tree is rendered to under the cap is what it is rendered to without one, if every text keeps
to the cap by itself and the sizes can be drawn from the budget one after another
(`childRenderTree_ok_iff`).

**A budget that is used up exactly is a budget of zero**, and that is no cap at all: behind such a
point every text goes through that keeps to the cap by itself.  `budget_law_iff` says that the cap
is observed everywhere else.
-/
namespace Greffer.Render
open Compose (Yaml bind_ok_iff map_ok_iff)

/-! ## One template -/

section Template
variable {maxOut : Nat} {failure : Option Failure}

/-- Under the cap, the chunks are the same, and keep to it. -/
theorem accumulate_ok_iff {chunks : List String} {total : Nat} (htotal : total ≤ maxOut)
    {out : String} :
    accumulate maxOut failure total chunks = .ok out ↔
      joined failure chunks = .ok out ∧ total + encodedLength out ≤ maxOut := by
  induction chunks generalizing total out with
  | nil =>
    rw [accumulate, joined]
    refine ⟨fun h => ⟨h, ?_⟩, fun h => h.1⟩
    cases failure with
    | none =>
      obtain rfl := Except.ok.inj h
      exact htotal
    | some f => cases h
  | cons chunk rest ih =>
    rw [accumulate, joined, map_ok_iff]
    by_cases hover : maxOut < total + encodedLength chunk
    · rw [if_pos hover]
      constructor
      · intro h
        cases h
      · rintro ⟨⟨out', -, rfl⟩, hsize⟩
        rw [encodedLength_append] at hsize
        omega
    · rw [if_neg hover, map_ok_iff]
      constructor
      · rintro ⟨out', hout, rfl⟩
        obtain ⟨hjoined, hsize⟩ := (ih (by omega)).mp hout
        refine ⟨⟨out', hjoined, rfl⟩, ?_⟩
        rw [encodedLength_append]
        omega
      · rintro ⟨⟨out', hjoined, rfl⟩, hsize⟩
        rw [encodedLength_append] at hsize
        exact ⟨out', (ih (by omega)).mpr ⟨hjoined, by omega⟩, rfl⟩

variable {Context : Type} {engine : Engine Context} {which : Which} {context : Context}

/-- **Under the cap, a template** is rendered to what it is rendered to without one. -/
theorem childRender_ok_iff (hcap : maxOut ≠ 0) {source out : String} :
    childRender engine maxOut which context source = .ok out ↔
      childRender engine 0 which context source = .ok out ∧ encodedLength out ≤ maxOut := by
  unfold childRender
  cases engine which source context with
  | uncompiled e =>
    constructor
    · intro h
      cases h
    · rintro ⟨h, -⟩
      cases h
  | chunks chunks failure =>
    dsimp only
    rw [if_neg hcap, if_pos rfl, accumulate_ok_iff (Nat.zero_le _), Nat.zero_add]

end Template

/-! ## The whole tree -/

section Tree
variable {Context : Type} {engine : Engine Context} {maxOut : Nat} {which : Which}
  {context : Context}

/-- The texts are drawn from the budget, one after another. -/
def drawAll (maxOut : Nat) : Nat → List String → Except RenderError Nat
  | budget, [] => .ok budget
  | budget, text :: rest => do
    let budget ← draw maxOut budget (encodedLength text)
    drawAll maxOut budget rest

theorem drawAll_append {budget budget' : Nat} (a b : List String) :
    drawAll maxOut budget (a ++ b) = .ok budget' ↔
      ∃ between, drawAll maxOut budget a = .ok between ∧
        drawAll maxOut between b = .ok budget' := by
  induction a generalizing budget with
  | nil =>
    constructor
    · exact fun h => ⟨budget, rfl, h⟩
    · rintro ⟨between, h, h'⟩
      obtain rfl := Except.ok.inj h
      exact h'
  | cons text rest ih =>
    rw [List.cons_append, drawAll, drawAll, bind_ok_iff]
    constructor
    · rintro ⟨left, hleft, h⟩
      obtain ⟨between, hbetween, hb⟩ := ih.mp h
      exact ⟨between, bind_ok_iff.mpr ⟨left, hleft, hbetween⟩, hb⟩
    · rintro ⟨between, h, hb⟩
      obtain ⟨left, hleft, hbetween⟩ := bind_ok_iff.mp h
      exact ⟨left, hleft, ih.mpr ⟨between, hbetween, hb⟩⟩

@[simp] theorem draw_zero (size : Nat) : draw maxOut 0 size = .ok 0 := rfl

/-- These texts keep to the cap, and to the budget. -/
def Drawn (maxOut budget : Nat) (texts : List String) (budget' : Nat) : Prop :=
  (∀ t ∈ texts, encodedLength t ≤ maxOut) ∧ drawAll maxOut budget texts = .ok budget'

theorem Drawn.append {budget budget' : Nat} {a b : List String} :
    Drawn maxOut budget (a ++ b) budget' ↔
      ∃ between, Drawn maxOut budget a between ∧ Drawn maxOut between b budget' := by
  unfold Drawn
  rw [drawAll_append, List.forall_mem_append]
  constructor
  · rintro ⟨⟨ha, hb⟩, between, hbetween, hdrawn⟩
    exact ⟨between, ⟨ha, hbetween⟩, hb, hdrawn⟩
  · rintro ⟨between, ⟨ha, hbetween⟩, hb, hdrawn⟩
    exact ⟨⟨ha, hb⟩, between, hbetween, hdrawn⟩

theorem Drawn.nil {budget budget' : Nat} : Drawn maxOut budget [] budget' ↔ budget = budget' := by
  unfold Drawn drawAll
  constructor
  · exact fun h => Except.ok.inj h.2
  · rintro rfl
    exact ⟨fun _ h => (by cases h), rfl⟩

mutual
theorem childRenderTree_left : ∀ (v : Yaml) {v' : Yaml} {left : Nat},
    childRenderTree engine 0 which context 0 v = .ok (v', left) → left = 0
  | .str s, v', left, h => by
    rw [childRenderTree] at h
    obtain ⟨out, -, h⟩ := bind_ok_iff.mp h
    rw [draw_zero] at h
    cases h
    rfl
  | .list items, v', left, h => by
    rw [childRenderTree] at h
    obtain ⟨⟨items', left'⟩, hitems, h⟩ := bind_ok_iff.mp h
    cases h
    exact childRenderAll_left items hitems
  | .dict entries, v', left, h => by
    rw [childRenderTree] at h
    obtain ⟨⟨entries', left'⟩, hentries, h⟩ := bind_ok_iff.mp h
    cases h
    exact childRenderValues_left entries hentries
  | .null, v', left, h | .bool _, v', left, h | .int _, v', left, h | .float _ _, v', left, h
  | .other _ _ _ _ _, v', left, h => by
    rw [childRenderTree] at h
    · cases h
      rfl
    all_goals
      intros
      contradiction

theorem childRenderAll_left : ∀ (items : List Yaml) {items' : List Yaml} {left : Nat},
    childRenderAll engine 0 which context 0 items = .ok (items', left) → left = 0
  | [], items', left, h => by
    rw [childRenderAll] at h
    cases h
    rfl
  | v :: vs, items', left, h => by
    rw [childRenderAll] at h
    obtain ⟨⟨v', between⟩, hv, h⟩ := bind_ok_iff.mp h
    obtain ⟨⟨vs', left'⟩, hvs, h⟩ := bind_ok_iff.mp h
    cases h
    obtain rfl := childRenderTree_left v hv
    exact childRenderAll_left vs hvs

theorem childRenderValues_left :
    ∀ (entries : List (Yaml × Yaml)) {entries' : List (Yaml × Yaml)} {left : Nat},
    childRenderValues engine 0 which context 0 entries = .ok (entries', left) → left = 0
  | [], entries', left, h => by
    rw [childRenderValues] at h
    cases h
    rfl
  | (k, v) :: es, entries', left, h => by
    rw [childRenderValues] at h
    obtain ⟨⟨v', between⟩, hv, h⟩ := bind_ok_iff.mp h
    obtain ⟨⟨es', left'⟩, hes, h⟩ := bind_ok_iff.mp h
    cases h
    obtain rfl := childRenderTree_left v hv
    exact childRenderValues_left es hes
end

mutual
/-- **Under the cap, a tree** is rendered to what it is rendered to without one, if its texts are
drawn from the budget. -/
theorem childRenderTree_ok_iff (hcap : maxOut ≠ 0) : ∀ (v : Yaml) {budget budget' : Nat} {v' : Yaml},
    childRenderTree engine maxOut which context budget v = .ok (v', budget') ↔
      childRenderTree engine 0 which context 0 v = .ok (v', 0) ∧
        Drawn maxOut budget (iterStringLeaves false v') budget'
  | .str s, budget, budget', v' => by
    rw [childRenderTree, childRenderTree, bind_ok_iff, bind_ok_iff]
    constructor
    · rintro ⟨out, hout, h⟩
      obtain ⟨left, hdraw, h⟩ := bind_ok_iff.mp h
      cases h
      obtain ⟨hplain, hsize⟩ := (childRender_ok_iff hcap).mp hout
      refine ⟨⟨out, hplain, rfl⟩, fun t ht => ?_, ?_⟩
      · rw [iterStringLeaves] at ht
        exact List.mem_singleton.mp ht ▸ hsize
      · rw [iterStringLeaves, drawAll]
        exact bind_ok_iff.mpr ⟨_, hdraw, rfl⟩
    · rintro ⟨⟨out, hplain, h⟩, hsize, hdrawn⟩
      -- without a cap, whatever was rendered is drawn
      obtain ⟨left, -, h⟩ := bind_ok_iff.mp h
      cases h
      rw [iterStringLeaves] at hsize hdrawn
      obtain ⟨left', hdraw, h⟩ := bind_ok_iff.mp hdrawn
      obtain rfl := Except.ok.inj h
      exact ⟨out, (childRender_ok_iff hcap).mpr ⟨hplain, hsize out List.mem_cons_self⟩,
        bind_ok_iff.mpr ⟨left', hdraw, rfl⟩⟩
  | .list items, budget, budget', v' => by
    rw [childRenderTree, childRenderTree, bind_ok_iff, bind_ok_iff]
    constructor
    · rintro ⟨⟨items', left⟩, hitems, h⟩
      cases h
      obtain ⟨hplain, hdrawn⟩ := (childRenderAll_ok_iff hcap items).mp hitems
      exact ⟨⟨_, hplain, rfl⟩, by rwa [iterStringLeaves]⟩
    · rintro ⟨⟨⟨items', left⟩, hplain, h⟩, hdrawn⟩
      cases h
      rw [iterStringLeaves] at hdrawn
      exact ⟨_, (childRenderAll_ok_iff hcap items).mpr ⟨hplain, hdrawn⟩, rfl⟩
  | .dict entries, budget, budget', v' => by
    rw [childRenderTree, childRenderTree, bind_ok_iff, bind_ok_iff]
    constructor
    · rintro ⟨⟨entries', left⟩, hentries, h⟩
      cases h
      obtain ⟨hplain, hdrawn⟩ := (childRenderValues_ok_iff hcap entries).mp hentries
      exact ⟨⟨_, hplain, rfl⟩, by rwa [iterStringLeaves]⟩
    · rintro ⟨⟨⟨entries', left⟩, hplain, h⟩, hdrawn⟩
      cases h
      rw [iterStringLeaves] at hdrawn
      exact ⟨_, (childRenderValues_ok_iff hcap entries).mpr ⟨hplain, hdrawn⟩, rfl⟩
  | .null, budget, budget', v' | .bool _, budget, budget', v' | .int _, budget, budget', v'
  | .float _ _, budget, budget', v' | .other _ _ _ _ _, budget, budget', v' => by
    rw [childRenderTree, childRenderTree]
    · constructor
      · intro h
        cases h
        exact ⟨rfl, by rw [iterStringLeaves, Drawn.nil]; all_goals (intros; contradiction)⟩
      · rintro ⟨h, hdrawn⟩
        cases h
        rw [iterStringLeaves, Drawn.nil] at hdrawn
        · rw [hdrawn]
          rfl
        all_goals (intros; contradiction)
    all_goals (intros; contradiction)

theorem childRenderAll_ok_iff (hcap : maxOut ≠ 0) :
    ∀ (items : List Yaml) {budget budget' : Nat} {items' : List Yaml},
    childRenderAll engine maxOut which context budget items = .ok (items', budget') ↔
      childRenderAll engine 0 which context 0 items = .ok (items', 0) ∧
        Drawn maxOut budget (iterItems false items') budget'
  | [], budget, budget', items' => by
    rw [childRenderAll, childRenderAll]
    constructor
    · intro h
      cases h
      exact ⟨rfl, Drawn.nil.mpr rfl⟩
    · rintro ⟨h, hdrawn⟩
      cases h
      rw [Drawn.nil.mp hdrawn]
      rfl
  | v :: vs, budget, budget', items' => by
    rw [childRenderAll, childRenderAll, bind_ok_iff, bind_ok_iff]
    constructor
    · rintro ⟨⟨v', between⟩, hv, h⟩
      obtain ⟨⟨vs', left⟩, hvs, h⟩ := bind_ok_iff.mp h
      cases h
      obtain ⟨hplain, hdrawn⟩ := (childRenderTree_ok_iff hcap v).mp hv
      obtain ⟨hplain', hdrawn'⟩ := (childRenderAll_ok_iff hcap vs).mp hvs
      exact ⟨⟨_, hplain, bind_ok_iff.mpr ⟨_, hplain', rfl⟩⟩,
        Drawn.append.mpr ⟨between, hdrawn, hdrawn'⟩⟩
    · rintro ⟨⟨⟨v', between⟩, hplain, h⟩, hdrawn⟩
      obtain ⟨⟨vs', left⟩, hplain', h⟩ := bind_ok_iff.mp h
      cases h
      obtain rfl := childRenderTree_left v hplain
      -- the texts of the item are drawn first, and those of the others from what they leave
      obtain ⟨between, hdrawn, hdrawn'⟩ := Drawn.append.mp hdrawn
      exact ⟨_, (childRenderTree_ok_iff hcap v).mpr ⟨hplain, hdrawn⟩,
        bind_ok_iff.mpr ⟨_, (childRenderAll_ok_iff hcap vs).mpr ⟨hplain', hdrawn'⟩, rfl⟩⟩

theorem childRenderValues_ok_iff (hcap : maxOut ≠ 0) :
    ∀ (entries : List (Yaml × Yaml)) {budget budget' : Nat} {entries' : List (Yaml × Yaml)},
    childRenderValues engine maxOut which context budget entries = .ok (entries', budget') ↔
      childRenderValues engine 0 which context 0 entries = .ok (entries', 0) ∧
        Drawn maxOut budget (iterValues false entries') budget'
  | [], budget, budget', entries' => by
    rw [childRenderValues, childRenderValues]
    constructor
    · intro h
      cases h
      exact ⟨rfl, Drawn.nil.mpr rfl⟩
    · rintro ⟨h, hdrawn⟩
      cases h
      rw [Drawn.nil.mp hdrawn]
      rfl
  | (k, v) :: es, budget, budget', entries' => by
    rw [childRenderValues, childRenderValues, bind_ok_iff, bind_ok_iff]
    constructor
    · rintro ⟨⟨v', between⟩, hv, h⟩
      obtain ⟨⟨es', left⟩, hes, h⟩ := bind_ok_iff.mp h
      cases h
      obtain ⟨hplain, hdrawn⟩ := (childRenderTree_ok_iff hcap v).mp hv
      obtain ⟨hplain', hdrawn'⟩ := (childRenderValues_ok_iff hcap es).mp hes
      exact ⟨⟨_, hplain, bind_ok_iff.mpr ⟨_, hplain', rfl⟩⟩,
        Drawn.append.mpr ⟨between, hdrawn, hdrawn'⟩⟩
    · rintro ⟨⟨⟨v', between⟩, hplain, h⟩, hdrawn⟩
      obtain ⟨⟨es', left⟩, hplain', h⟩ := bind_ok_iff.mp h
      cases h
      obtain rfl := childRenderTree_left v hplain
      obtain ⟨between, hdrawn, hdrawn'⟩ := Drawn.append.mp hdrawn
      exact ⟨_, (childRenderTree_ok_iff hcap v).mpr ⟨hplain, hdrawn⟩,
        bind_ok_iff.mpr ⟨_, (childRenderValues_ok_iff hcap es).mpr ⟨hplain', hdrawn'⟩, rfl⟩⟩
end

end Tree

/-! ## What is drawn -/

section Drawn
variable {maxOut budget : Nat}

/-- **What is drawn from a budget** keeps to it, unless the budget is used up exactly on the way. -/
theorem drawAll_within {texts : List String} {budget' : Nat} (hbudget : budget ≠ 0)
    (h : drawAll maxOut budget texts = .ok budget') :
    totalLength texts ≤ budget ∨
      ∃ a b, texts = a ++ b ∧ totalLength a = budget ∧ 0 < totalLength b := by
  induction texts generalizing budget with
  | nil => exact .inl (Nat.zero_le _)
  | cons text rest ih =>
    rw [drawAll] at h
    obtain ⟨left, hdraw, h⟩ := bind_ok_iff.mp h
    unfold draw at hdraw
    rw [if_neg hbudget] at hdraw
    split at hdraw
    · cases hdraw
    · rename_i hsize
      obtain rfl := Except.ok.inj hdraw
      rw [totalLength_cons]
      by_cases hzero : budget - encodedLength text = 0
      · -- the budget is zero from here on
        by_cases hrest : totalLength rest = 0
        · exact .inl (by omega)
        · exact .inr ⟨[text], rest, rfl, by rw [totalLength_cons, totalLength_nil]; omega, by omega⟩
      · obtain hwithin | ⟨a, b, rfl, ha, hb⟩ := ih hzero h
        · exact .inl (by omega)
        · exact .inr ⟨text :: a, b, rfl, by rw [totalLength_cons]; omega, hb⟩

theorem drawAll_zero (texts : List String) : drawAll maxOut 0 texts = .ok 0 := by
  induction texts with
  | nil => rfl
  | cons text rest ih => exact bind_ok_iff.mpr ⟨0, rfl, ih⟩

/-- Texts that come to the budget use it up. -/
theorem drawAll_exact {texts : List String} (h : totalLength texts = budget) :
    drawAll maxOut budget texts = .ok 0 := by
  induction texts generalizing budget with
  | nil =>
    rw [totalLength_nil] at h
    rw [drawAll, h]
  | cons text rest ih =>
    rw [totalLength_cons] at h
    refine bind_ok_iff.mpr ⟨budget - encodedLength text, ?_, ih (by omega)⟩
    unfold draw
    split
    · rename_i hzero
      rw [hzero, Nat.zero_sub]
    · rw [if_neg (by omega)]

/-- Behind a budget that is used up, anything is drawn. -/
theorem drawAll_behind {a b : List String} (h : totalLength a = budget) :
    drawAll maxOut budget (a ++ b) = .ok 0 :=
  (drawAll_append a b).mpr ⟨0, drawAll_exact h, drawAll_zero b⟩

end Drawn

/-! ## The law -/

section Law
variable {Context : Type} (engine : Engine Context) (maxOut : Nat) (which : Which)
  (context : Context) (tree : Yaml)

/-- What is rendered keeps to the cap, and what would not is refused. -/
structure BudgetLaw : Prop where
  within : ∀ tree', treeJob engine maxOut which context tree = .ok tree' →
    totalLength (iterStringLeaves false tree') ≤ maxOut
  refused : ∀ tree', treeJob engine 0 which context tree = .ok tree' →
    maxOut < totalLength (iterStringLeaves false tree') →
      ∃ e, treeJob engine maxOut which context tree = .error e

/-- **The budget is used up on the way**: the texts keep to the cap one by one, the first of them
come to exactly the cap, and something is left to render behind them. -/
def UsedUp : Prop :=
  ∃ tree', treeJob engine 0 which context tree = .ok tree' ∧
    (∀ t ∈ iterStringLeaves false tree', encodedLength t ≤ maxOut) ∧
    ∃ a b, iterStringLeaves false tree' = a ++ b ∧ totalLength a = maxOut ∧ 0 < totalLength b

variable {engine maxOut which context tree}

/-- The job of a tree, under the cap. -/
theorem treeJob_ok_iff (hcap : maxOut ≠ 0) {tree' : Yaml} :
    treeJob engine maxOut which context tree = .ok tree' ↔
      treeJob engine 0 which context tree = .ok tree' ∧
        ∃ left, Drawn maxOut maxOut (iterStringLeaves false tree') left := by
  unfold treeJob
  rw [map_ok_iff, map_ok_iff]
  constructor
  · rintro ⟨⟨v', left⟩, h, rfl⟩
    obtain ⟨hplain, hdrawn⟩ := (childRenderTree_ok_iff hcap tree).mp h
    exact ⟨⟨_, hplain, rfl⟩, left, hdrawn⟩
  · rintro ⟨⟨⟨v', left⟩, hplain, rfl⟩, left', hdrawn⟩
    obtain rfl := childRenderTree_left tree hplain
    exact ⟨_, (childRenderTree_ok_iff hcap tree).mpr ⟨hplain, hdrawn⟩, rfl⟩

/-- **The cap is observed** exactly where the budget is not used up on the way. -/
theorem budget_law_iff (hcap : 0 < maxOut) :
    BudgetLaw engine maxOut which context tree ↔ ¬ UsedUp engine maxOut which context tree := by
  have hcap' : maxOut ≠ 0 := by omega
  constructor
  · rintro hlaw ⟨tree', hplain, hsizes, a, b, htexts, ha, hb⟩
    have hjob : treeJob engine maxOut which context tree = .ok tree' := by
      refine (treeJob_ok_iff hcap').mpr ⟨hplain, 0, hsizes, ?_⟩
      rw [htexts]
      exact drawAll_behind ha
    have hwithin := hlaw.within tree' hjob
    rw [htexts, totalLength_append] at hwithin
    omega
  · intro hfree
    have hwithin : ∀ tree', treeJob engine maxOut which context tree = .ok tree' →
        totalLength (iterStringLeaves false tree') ≤ maxOut := by
      intro tree' hjob
      obtain ⟨hplain, left, hsizes, hdrawn⟩ := (treeJob_ok_iff hcap').mp hjob
      obtain hwithin | hexact := drawAll_within hcap' hdrawn
      · exact hwithin
      · exact absurd ⟨tree', hplain, hsizes, hexact⟩ hfree
    refine ⟨hwithin, fun tree' hplain hover => ?_⟩
    cases hjob : treeJob engine maxOut which context tree with
    | error e => exact ⟨e, rfl⟩
    | ok tree'' =>
      obtain ⟨hplain', -⟩ := (treeJob_ok_iff hcap').mp hjob
      obtain rfl := Except.ok.inj (hplain.symm.trans hplain')
      exact absurd (hwithin _ hjob) (by omega)

end Law

/-- The engine that generates the template itself. -/
def echo : Engine Unit := fun _ source _ => .chunks [source] none

/-- Two texts. -/
def pair : Yaml := .list [.str "ab", .str "cd"]

/-- Under a cap that both keep to together, the law holds of them. -/
theorem budget_law_pair : BudgetLaw echo 5 .body () pair := by
  refine (budget_law_iff (by decide)).mpr ?_
  rintro ⟨tree', hplain, -, a, b, htexts, ha, -⟩
  have htree : treeJob echo 0 .body () pair = .ok pair := rfl
  obtain rfl := Except.ok.inj (htree.symm.trans hplain)
  have htotal := congrArg totalLength htexts
  rw [totalLength_append] at htotal
  have hfour : totalLength (iterStringLeaves false pair) = 4 := by decide
  omega

/-- **The first text comes to the cap**, and the second goes through too. -/
theorem budget_used_up : ¬ BudgetLaw echo 2 .body () pair := by
  intro hlaw
  refine (budget_law_iff (by decide)).mp hlaw ⟨pair, rfl, by decide, ["ab"], ["cd"], ?_⟩
  decide

end Greffer.Render

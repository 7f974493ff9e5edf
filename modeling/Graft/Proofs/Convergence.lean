import Graft.Proofs.RepairRules
import Mathlib.Logic.Relation

/-!
# Repairing again and again

A repair applies one rule once, and what it leaves may be in need of the next one: a brace that
goes uncovers a comma, and a comma that goes uncovers a brace. This file follows a body through
any number of repairs.

What a single repair does is said once (`Repairs.shrinks`). It takes one comma or one closing
brace from the end of the body, so the body gets shorter, its core stays (`core`), and a brace
goes only where more of them close than open. Since every repair shortens the body, repairing
comes to an end (`settle`), and what holds of one repair carries over to all of them by induction
(`keeps_of_repairs`). A body that no rule applies to any more is in order at its end
(`settled_of_first?`).
-/

namespace Graft.Script.Repair

open Text Relation

/-- One repair leads from a body to another. -/
def Repairs (x y : Text) : Prop := ∃ rule, first? x = some (rule, y)

/-! ## The core of a body -/

/-- A character that a repair may take away: a blank, a comma or a closing brace. -/
def isLoose (c : Char) : Bool := isBlank c || c == ',' || c == '}'

/-- The body up to its last character that is not loose. -/
def core (body : Text) : Text := (body.reverse.dropWhile isLoose).reverse

theorem core_prefix (body : Text) : core body <+: body := by
  rw [core, ← List.reverse_suffix, List.reverse_reverse]
  exact List.dropWhile_suffix isLoose

/-- Loose characters at the end do not belong to the core. -/
theorem core_append (a : Text) {t : Text} (ht : ∀ c ∈ t, isLoose c = true) :
    core (a ++ t) = core a := by
  have hrev : ∀ c ∈ t.reverse, isLoose c = true := fun c hc => ht c (List.mem_reverse.mp hc)
  rw [core, core, List.reverse_append, List.dropWhile_append_of_pos hrev]

theorem isLoose_of_isBlank {ws : Text} (hws : ∀ c ∈ ws, isBlank c = true) :
    ∀ c ∈ ws, isLoose c = true := by
  intro c hc
  rw [isLoose, hws c hc]
  rfl

/-! ## One repair -/

/-- What one repair does to a body. -/
structure Shrinks (x y : Text) : Prop where
  /-- The body gets shorter. -/
  shorter : y.length < x.length
  /-- Only loose characters at the end are touched. -/
  core_eq : core y = core x
  /-- No opening brace comes or goes. -/
  opening : y.count '{' = x.count '{'
  /-- At most one closing brace goes, and only one too many. -/
  closing : y.count '}' = x.count '}' ∨
    x.count '{' < x.count '}' ∧ y.count '}' + 1 = x.count '}'
  /-- The blanks at the end stay. -/
  blanks : blankTail x <:+ blankTail y

theorem blankTail_suffix (t : Text) : blankTail t <:+ t :=
  ⟨trimRight t, trimRight_append_blankTail t⟩

/-- Blanks that a text ends with are among the blanks at its end. -/
theorem suffix_blankTail (a : Text) {ws : Text} (hws : ∀ c ∈ ws, isBlank c = true) :
    ws <:+ blankTail (a ++ ws) := by
  have hrev : ∀ c ∈ ws.reverse, isBlank c = true := fun c hc => hws c (List.mem_reverse.mp hc)
  rw [blankTail, List.reverse_append, List.takeWhile_append_of_pos hrev, List.reverse_append,
    List.reverse_reverse]
  exact List.suffix_append _ _

/-- Exchanging loose characters for fewer of them, in front of the blanks at the end. -/
theorem shrinks_of_isLoose {a t u ws : Text} (ht : ∀ c ∈ t, isLoose c = true)
    (hu : ∀ c ∈ u, isLoose c = true) (hws : ∀ c ∈ ws, isBlank c = true)
    (htail : blankTail (a ++ t ++ ws) = ws) (hlength : u.length < t.length)
    (hclosing : u.count '}' = t.count '}' ∨
      (a ++ t ++ ws).count '{' < (a ++ t ++ ws).count '}' ∧ u.count '}' + 1 = t.count '}') :
    Shrinks (a ++ t ++ ws) (a ++ u ++ ws) := by
  have hcore : ∀ v : Text, (∀ c ∈ v, isLoose c = true) → core (a ++ v ++ ws) = core a :=
    fun v hv => by rw [core_append _ (isLoose_of_isBlank hws), core_append a hv]
  have hopen : ∀ v : Text, (∀ c ∈ v, isLoose c = true) → v.count '{' = 0 :=
    fun v hv => List.count_eq_zero.mpr (not_mem_of_forall hv (by decide))
  refine ⟨?_, by rw [hcore u hu, hcore t ht], ?_, ?_, ?_⟩
  · simp only [List.length_append]
    omega
  · simp only [List.count_append, hopen u hu, hopen t ht]
  · simp only [List.count_append] at hclosing ⊢
    omega
  · rw [htail]
    exact suffix_blankTail _ hws

/-- **What one repair does**, whatever the rule. -/
theorem Repairs.shrinks {x y : Text} (h : Repairs x y) : Shrinks x y := by
  obtain ⟨rule, h⟩ := h
  obtain ⟨a, ws, ws', hws, hws', hcases⟩ := Rule.mend?_cases (mend?_of_first? h)
  have hnone : ws.count '}' = 0 := List.count_eq_zero.mpr (not_mem_of_forall hws (by decide))
  have hbrace : ∀ c ∈ ['}'], isLoose c = true := forall_of_all (by decide)
  have hspaced : ∀ c d, isLoose c = true → isLoose d = true →
      ∀ e ∈ [c] ++ ws ++ [d], isLoose e = true := by
    intro c d hc hd e he
    simp only [List.mem_append, List.mem_singleton] at he
    rcases he with (rfl | he) | rfl
    · exact hc
    · exact isLoose_of_isBlank hws e he
    · exact hd
  obtain ⟨rfl, rfl⟩ | ⟨rfl, rfl⟩ | ⟨hexcess, rfl, rfl⟩ := hcases
  · have hx : a ++ ',' :: ws ++ '}' :: ws' = a ++ ([','] ++ ws ++ ['}']) ++ ws' := by simp
    rw [hx, List.append_cons a]
    refine shrinks_of_isLoose (hspaced ',' '}' (by decide) (by decide)) hbrace hws' ?_ (by simp)
      (Or.inl (by simp [hnone]))
    rw [← List.append_assoc]
    exact (trimRight_append (by decide) hws').2
  · have hx : a ++ '}' :: ws ++ ',' :: ws' = a ++ (['}'] ++ ws ++ [',']) ++ ws' := by simp
    rw [hx, List.append_cons a]
    refine shrinks_of_isLoose (hspaced '}' ',' (by decide) (by decide)) hbrace hws' ?_ (by simp)
      (Or.inl (by simp [hnone]))
    rw [← List.append_assoc]
    exact (trimRight_append (by decide) hws').2
  · rw [List.append_cons a] at hexcess ⊢
    have hy : a ++ ws' = a ++ [] ++ ws' := by simp
    rw [hy]
    exact shrinks_of_isLoose hbrace (by simp) hws' (trimRight_append (by decide) hws').2 (by simp)
      (Or.inr ⟨hexcess, by simp⟩)

/-! ## Repairing to the end -/

/-- The body after as many repairs as there are to make. -/
def settle (body : Text) : Text :=
  match _h : first? body with
  | none => body
  | some (_, mended) => settle mended
termination_by body.length
decreasing_by exact (Repairs.shrinks ⟨_, _h⟩).shorter

/-- No sequence of repairs goes on forever. -/
theorem repairs_terminate (body : Text) : Acc (fun y x => Repairs x y) body :=
  (Subrelation.wf (fun h => Repairs.shrinks h |>.shorter)
    (InvImage.wf List.length Nat.lt_wfRel.wf)).apply body

theorem settle_reached (body : Text) :
    ReflTransGen Repairs body (settle body) ∧ first? (settle body) = none := by
  fun_induction settle body with
  | case1 body h => exact ⟨.refl, h⟩
  | case2 body rule mended h ih => exact ⟨.head ⟨rule, h⟩ ih.1, ih.2⟩

/-! ## What repairs leave alone -/

/-- What a body still has of the one that it was repaired from. -/
structure Keeps (body x : Text) : Prop where
  core_eq : core x = core body
  opening : x.count '{' = body.count '{'
  /-- A body without a brace too many loses none. -/
  balanced : body.count '}' ≤ body.count '{' → x.count '}' = body.count '}'
  /-- A body with braces too many is not left with too few. -/
  excess : body.count '{' < body.count '}' → x.count '{' ≤ x.count '}'
  blanks : blankTail body <:+ blankTail x

theorem Keeps.refl (body : Text) : Keeps body body :=
  ⟨rfl, rfl, fun _ => rfl, Nat.le_of_lt, List.suffix_rfl⟩

theorem Keeps.step {body x y : Text} (hx : Keeps body x) (h : Shrinks x y) : Keeps body y := by
  have hclosing := h.closing
  have hopening := hx.opening
  refine ⟨h.core_eq.trans hx.core_eq, h.opening.trans hopening, ?_, ?_, hx.blanks.trans h.blanks⟩
  · intro hbody
    have hsame := hx.balanced hbody
    omega
  · intro hbody
    have hleft := hx.excess hbody
    have hsame := h.opening
    omega

/-- **Any number of repairs** keeps what one keeps. -/
theorem keeps_of_repairs {body x : Text} (h : ReflTransGen Repairs body x) : Keeps body x := by
  induction h with
  | refl => exact Keeps.refl body
  | tail _ hstep ih => exact ih.step hstep.shrinks

/-! ## Where repairing ends -/

/-- A body whose end is in order. -/
structure Settled (x : Text) : Prop where
  /-- No comma stands in front of the last brace. -/
  comma_brace : ∀ a ws ws', (∀ c ∈ ws, isBlank c = true) → (∀ c ∈ ws', isBlank c = true) →
    x ≠ a ++ ',' :: ws ++ '}' :: ws'
  /-- None stands behind it. -/
  brace_comma : ∀ a ws ws', (∀ c ∈ ws, isBlank c = true) → (∀ c ∈ ws', isBlank c = true) →
    x ≠ a ++ '}' :: ws ++ ',' :: ws'
  /-- A brace at the end is none too many. -/
  brace : endsWith (trimRight x) ['}'] = true → x.count '}' ≤ x.count '{'

theorem mend?_eq_none_of_first? {x : Text} (h : first? x = none) (rule : Rule) :
    rule.mend? x = none := by
  rw [first?_eq, List.findSome?_eq_none_iff] at h
  exact Option.map_eq_none_iff.mp (h rule (by cases rule <;> decide))

theorem settled_of_first? {x : Text} (h : first? x = none) : Settled x := by
  have hnone : ∀ rule mended, Rule.mend? rule x ≠ some mended := fun rule mended hm => by
    rw [mend?_eq_none_of_first? h rule] at hm
    exact absurd hm (by simp)
  refine ⟨?_, ?_, ?_⟩
  · intro a ws ws' hws hws' hx
    refine hnone .commaBeforeClose _ (Rule.mend?_eq_some_iff.mpr
      ⟨rfl, a, _, ws', ⟨ws, hws, rfl⟩, hws', ?_, rfl⟩)
    rw [hx]
    simp
  · intro a ws ws' hws hws' hx
    refine hnone .commaAfterClose _ (Rule.mend?_eq_some_iff.mpr
      ⟨rfl, a, _, ws', ⟨ws, hws, rfl⟩, hws', ?_, rfl⟩)
    rw [hx]
    simp
  · intro hend
    have hmend := mend?_eq_none_of_first? h .extraClose
    rw [Rule.mend?_extraClose, hend, Bool.true_and] at hmend
    refine Nat.le_of_not_lt fun hcount => ?_
    rw [if_pos (decide_eq_true hcount)] at hmend
    exact absurd hmend (by simp)

/-- **Repairing again and again comes to an end in good order.** Repairs cannot go on forever,
and the body they end with is in order at its end. Each one on the way shortens the body and takes
at most one brace, one too many. All through, the body keeps its front up to the last character
that is not loose, its opening braces, its closing ones as far as they are not too many, and the
blanks at its end. -/
theorem repeated_repair_converges (body : Text) :
    Acc (fun y x => Repairs x y) body ∧
      (ReflTransGen Repairs body (settle body) ∧ first? (settle body) = none) ∧
      ∀ x, ReflTransGen Repairs body x →
        (Keeps body x ∧ core body <+: x ∧ blankTail body <:+ x) ∧
          (∀ y, Repairs x y → Shrinks x y) ∧ (first? x = none → Settled x) := by
  refine ⟨repairs_terminate body, settle_reached body, fun x hx => ?_⟩
  have hkeeps := keeps_of_repairs hx
  refine ⟨⟨hkeeps, ?_, ?_⟩, fun y hy => hy.shrinks, settled_of_first?⟩
  · rw [← hkeeps.core_eq]
    exact core_prefix x
  · exact hkeeps.blanks.trans (blankTail_suffix x)

end Graft.Script.Repair

import LayoutTree.Proofs.Compose.Hosting
import LayoutTree.Proofs.Compose.Unrolled

/-!
Composing with and without repetition gives the same, once every repeated group is written out.
-/

namespace LayoutTree

namespace Plan

variable {base base' : Nat}

lemma AllModelled.replicate {p : Plan} {v : Value} (h : p.Modelled base v) (n : Nat) :
    AllModelled base (List.replicate n p) (List.replicate n v) := by
  induction n with
  | zero => exact .nil
  | succ n ih => exact .cons h ih

mutual

lemma Modelled.unrolled {p : Plan} {v : Value} (h : p.Modelled base v) :
    p.expand.Modelled base v.unrolled := by
  cases h with
  | item hid => exact .item hid
  | group hid hs => exact .group hid (AllModelled.unrolledAll hs)
  | repeated hid h => exact .group hid (AllModelled.replicate (Modelled.unrolled h) _)
  | insetsItem hid h => exact .insetsItem hid (Modelled.unrolled h)
  | insetsGroup hid h => exact .insetsGroup hid (Modelled.unrolled h)
  | edgesItem hid h => exact .edgesItem hid (Modelled.unrolled h)
  | edgesGroup hid h => exact .edgesGroup hid (Modelled.unrolled h)
  | spacing hid h => exact .spacing hid (Modelled.unrolled h)

lemma AllModelled.unrolledAll {ps : List Plan} {vs : List Value} (h : AllModelled base ps vs) :
    AllModelled base (expandAll ps) (Value.unrolledAll vs) := by
  cases h with
  | nil => exact .nil
  | cons h hs => exact .cons (Modelled.unrolled h) (AllModelled.unrolledAll hs)

end

lemma same_noInsets (j k : Nat) : (Insets.none j).same (.none k) = true := rfl

mutual

/-- Host objects made of like plans are equal, whatever their identities. -/
lemma Like.same_modelled {p q : Plan} {v w : Value} (h : p.Like q) (hv : p.Modelled base v)
    (hw : q.Modelled base' w) : v.same w = true := by
  cases h with
  | item hz =>
    cases hv
    cases hw
    simp [hz, same_noInsets]
  | group d hz hs =>
    cases hv with
    | group _ hvs =>
      cases hw with
      | group _ hws => simp [hz, same_noInsets, AllLike.sameAll_modelled hs hvs hws]
  | repeated d n hz h =>
    cases hv with
    | repeated _ hv =>
      cases hw with
      | repeated _ hw => simp [hz, same_noInsets, Like.same_modelled h hv hw]
  | insets h hi =>
    cases hv with
    | insetsItem _ hv =>
      cases hw with
      | insetsItem _ hw =>
        have hsame := Like.same_modelled h hv hw
        simp only [Value.same_item, Bool.and_eq_true] at hsame
        simp [hi, hsame]
      | insetsGroup _ hw => cases Like.same_modelled h hv hw
    | insetsGroup _ hv =>
      cases hw with
      | insetsItem _ hw => cases Like.same_modelled h hv hw
      | insetsGroup _ hw =>
        have hsame := Like.same_modelled h hv hw
        simp only [Value.same_itemGroup, Bool.and_eq_true] at hsame
        simp [hi, hsame]
  | edges h he =>
    cases hv with
    | edgesItem _ hv =>
      cases hw with
      | edgesItem _ hw =>
        have hsame := Like.same_modelled h hv hw
        simp only [Value.same_item, Bool.and_eq_true] at hsame
        simp [he, hsame]
      | edgesGroup _ hw => cases Like.same_modelled h hv hw
    | edgesGroup _ hv =>
      cases hw with
      | edgesItem _ hw => cases Like.same_modelled h hv hw
      | edgesGroup _ hw =>
        have hsame := Like.same_modelled h hv hw
        simp only [Value.same_itemGroup, Bool.and_eq_true] at hsame
        simp [he, hsame]
  | spacing h hg =>
    cases hv with
    | spacing _ hv =>
      cases hw with
      | spacing _ hw =>
        have hsame := Like.same_modelled h hv hw
        simp only [Value.same_itemGroup, Bool.and_eq_true] at hsame
        simp [hg, hsame]

lemma AllLike.sameAll_modelled {ps qs : List Plan} {vs ws : List Value} (h : AllLike ps qs)
    (hv : AllModelled base ps vs) (hw : AllModelled base' qs ws) :
    Value.sameAll vs ws = true := by
  cases h with
  | nil =>
    cases hv
    cases hw
    rfl
  | cons h hs =>
    cases hv with
    | cons hv hvs =>
      cases hw with
      | cons hw hws =>
        rw [Value.sameAll_cons_cons, Like.same_modelled h hv hw,
          AllLike.sameAll_modelled hs hvs hws]
        rfl

end

end Plan

/-! ### Both ways of composing -/

section Composing

variable (ev : Evaluator) (engine : Nat) (on : Option Bool)

/-- What an engine makes of a plan is told by `R`, and so is what it makes of one without
repetition: the outcomes are equal once the repeated groups are written out. -/
lemma agrees_unrolled {R R' : Value → Plan → Prop} {repeats : Bool} {f : Frame} {ts : List Tree}
    {x y : Except Fault Value} (hx : Agrees R x (Tree.plan repeats f ts))
    (hy : Agrees R' y (Tree.plan false f ts))
    (h : ∀ v p w q, R v p → R' w q → q.Like p.expand → w.equals v.unrolled = true) :
    Agrees (fun v w => w.equals v.unrolled = true) x y :=
  hx.join hy (Tree.agrees_plans repeats f ts) fun v p w q hv hw hl => h v p w q hv hw hl.2.2

/-- **Repetition**: with an engine that can repeat items if it says so, composing with repetition
and without fails for the same reason, or gives host objects that are equal once every repeated
group is written out. -/
theorem compose_repeats {c : EngineClass}
    (hc : c.kind = .model ∨ ∃ implements, c.kind = .trace implements ∧ (c.supports → implements))
    {s s' : Session} (hs : s.Genuine s.composers.size engine) (hu : s.Unattached)
    (hs' : s'.Genuine s'.composers.size engine) (hu' : s'.Unattached) (f : Frame)
    (ts : List Tree) :
    Agrees (fun v w => w.equals v.unrolled = true)
      ((composeWith (c.engine engine) on (f.toValue (Tree.toValues ts))).exec ev s).1
      ((composeWith (c.engine engine) (some false) (f.toValue (Tree.toValues ts))).exec ev
        s').1 := by
  have hfalse : (c.supports && (some false).getD true) = false := by simp
  rcases hc with hk | ⟨implements, hk, hi⟩
  · have hy := agrees_model ev engine (some false) hk hs' hu' f ts
    rw [hfalse] at hy
    refine agrees_unrolled (agrees_model ev engine on hk hs hu f ts) hy fun v p w q hv hw h => ?_
    have hsame := h.same_modelled hw hv.unrolled
    rcases Value.eq_of_isHost hw.isHost with ⟨_, _, _, _, rfl⟩ | ⟨_, _, _, _, _, _, _, _, rfl⟩ <;>
      exact hsame
  · obtain ⟨-, x, t, hx, hrx, -⟩ := exec_composeWith_trace ev hk hi on s hs f ts
    obtain ⟨-, y, u, hy, hry, -⟩ := exec_composeWith_trace ev hk hi (some false) s' hs' f ts
    rw [hfalse] at hry
    rw [hx, hy]
    refine agrees_unrolled hrx hry fun v p w q hv hw h => ?_
    rw [hv, hw, Plan.unrolled_trace]
    exact h.same_trace

/-- A column with a row of two equal slots in it is made in both ways. -/
theorem compose_repeats_nested :
    let z : LayoutSize := ⟨1, ⟨2, .absolute, .zero⟩, ⟨3, .absolute, .zero⟩⟩
    let row : Frame := ⟨4, z, some (.none 5), none, .horizontal, some ⟨6, .fixed, .zero⟩⟩
    let column : Frame := ⟨7, z, none, none, .vertical, none⟩
    let ts : List Tree := [.group row [.slot ⟨8, z, none, none, 2, by decide⟩,
      .slot ⟨9, { z with id := 10 }, none, none, 3, by decide⟩]]
    let made (on : Option Bool) : Except Fault Value :=
      ((composeWith (EngineClass.model.engine 0) on
        (column.toValue (Tree.toValues ts))).exec .none (.initial [] false)).1
    ∃ v w, made none = .ok v ∧ made (some false) = .ok w ∧ w.equals v.unrolled = true := by
  intro z row column ts made
  have h : Agrees (fun v w => w.equals v.unrolled = true) (made none) (made (some false)) :=
    compose_repeats .none 0 none (.inl rfl) (Session.genuine_initial ..) (fun _ _ => rfl)
      (Session.genuine_initial ..) (fun _ _ => rfl) column ts
  have hrun : Agrees _ (made none) (Tree.plan true column ts) :=
    agrees_model .none 0 none rfl (Session.genuine_initial ..) (fun _ _ => rfl) column ts
  obtain ⟨p, hp⟩ := Tree.exists_plan true column ts
    (by simp [Tree.Fits, Tree.AllFit, memoryLimit, ts])
  rw [hp] at hrun
  generalize made none = x at h hrun ⊢
  generalize made (some false) = y at h ⊢
  cases h with
  | ok h => exact ⟨_, _, rfl, rfl, h⟩
  | error e => cases hrun

end Composing

end LayoutTree

import Iperf3Lib.General.Except

/-!
# Fallible steps over a state

`Meets` and `Yields` say what a step may return and what it may raise, whatever the state it starts
in. `Tracks` and `Couples` put two steps side by side: from related states they return related values in
related states. Each has a rule for every way to build a step.
-/

namespace Iperf3Lib

variable {σ τ ε α β γ δ : Type}

/-! ## What a step returns and raises -/

/-- The value has `P` or the exception has `Q`. -/
def Meets (P : α → Prop) (Q : ε → Prop) : Except ε α → Prop
  | .ok a => P a
  | .error e => Q e

namespace Meets

variable {P P' : α → Prop} {Q : ε → Prop} {R : β → Prop} {x : Except ε α}

theorem mono (h : Meets P Q x) (hP : ∀ a, P a → P' a) : Meets P' Q x := by
  cases x with
  | ok a => exact hP a h
  | error e => exact h

theorem bind {f : α → Except ε β} (h : Meets P Q x) (hf : ∀ a, P a → Meets R Q (f a)) :
    Meets R Q (x >>= f) := by
  cases x with
  | ok a => exact hf a h
  | error e => exact h

theorem map {f : α → β} (h : Meets P Q x) (hf : ∀ a, P a → R (f a)) : Meets R Q (x.map f) := by
  cases x with
  | ok a => exact hf a h
  | error e => exact h

/-- What is returned is what the step returns. -/
theorem self (h : Meets P Q x) : Meets (fun a => x = .ok a) Q x := by
  cases x with
  | ok a => rfl
  | error e => exact h

theorem of_ok (h : Meets P Q x) {a : α} (hx : x = .ok a) : P a := by
  subst hx
  exact h

/-- A mapped list has what each of its items has. -/
theorem mapM {f : α → Except ε β} {S : α → β → Prop} (xs : List α)
    (hf : ∀ a ∈ xs, Meets (S a) Q (f a)) : Meets (List.Forall₂ S xs) Q (xs.mapM f) := by
  induction xs with
  | nil => exact .nil
  | cons a xs ih =>
    rw [List.mapM_cons]
    refine (hf a List.mem_cons_self).bind fun b hb => ?_
    refine (ih fun a ha => hf a (List.mem_cons_of_mem _ ha)).bind fun bs hbs => ?_
    exact .cons hb hbs

end Meets

/-- From every state, what is returned has `P` and what is raised has `Q`. -/
def Yields (P : α → Prop) (Q : ε → Prop) (m : StateT σ (Except ε) α) : Prop :=
  ∀ s, Meets (fun r => P r.1) Q (m.run s)

namespace Yields

variable {P P' : α → Prop} {Q : ε → Prop} {R : β → Prop} {m : StateT σ (Except ε) α}

theorem pure {a : α} (h : P a) : Yields P Q (Pure.pure a : StateT σ (Except ε) α) := fun _ => h

theorem lift {x : Except ε α} (h : Meets P Q x) :
    Yields P Q (liftM x : StateT σ (Except ε) α) := by
  intro s
  change Meets _ Q (x >>= fun a => Except.ok (a, s))
  exact h.bind fun a ha => ha

theorem modify {f : σ → σ} : Yields (fun _ => True) Q (modify f : StateT σ (Except ε) Unit) :=
  fun _ => trivial

theorem mono (h : Yields P Q m) (hP : ∀ a, P a → P' a) : Yields P' Q m :=
  fun s => (h s).mono fun r => hP r.1

theorem bind {f : α → StateT σ (Except ε) β} (h : Yields P Q m) (hf : ∀ a, P a → Yields R Q (f a)) :
    Yields R Q (m >>= f) := by
  intro s
  rw [StateT.run_bind]
  exact (h s).bind fun r hr => hf r.1 hr r.2

/-- A loop keeps what each of its passes keeps. -/
theorem foldlM {f : β → α → StateT σ (Except ε) β} {S : List α → β → Prop} (xs : List α)
    (hf : ∀ before a after b, xs = before ++ a :: after → S before b →
      Yields (S (before ++ [a])) Q (f b a)) {b : β} (hb : S [] b) :
    Yields (S xs) Q (xs.foldlM f b) := by
  suffices h : ∀ before rest b, xs = before ++ rest → S before b →
      Yields (S xs) Q (rest.foldlM f b) from h [] xs b rfl hb
  intro before rest
  -- the passes so far are `before`
  induction rest generalizing before with
  | nil =>
    intro b hxs hb
    rw [hxs, List.append_nil]
    exact pure hb
  | cons a rest ih =>
    intro b hxs hb
    rw [List.foldlM_cons]
    refine (hf before a rest b hxs hb).bind fun b' hb' => ?_
    exact ih (before ++ [a]) b' (by rw [hxs, List.append_assoc, List.singleton_append]) hb'

/-- A mapped list has what each of its items has. -/
theorem mapM {f : α → StateT σ (Except ε) β} {S : α → β → Prop} (xs : List α)
    (hf : ∀ a ∈ xs, Yields (S a) Q (f a)) : Yields (List.Forall₂ S xs) Q (xs.mapM f) := by
  induction xs with
  | nil => exact pure .nil
  | cons a xs ih =>
    rw [List.mapM_cons]
    refine (hf a List.mem_cons_self).bind fun b hb => ?_
    refine (ih fun a ha => hf a (List.mem_cons_of_mem _ ha)).bind fun bs hbs => ?_
    exact pure (.cons hb hbs)

end Yields

/-! ## Steps side by side -/

/-- Where the first step succeeds, so does the second one as long as `A` holds; where both do, their
values are related. -/
def Tracks (A : Prop) (R : α → β → Prop) (x : Except ε α) (y : Except ε β) : Prop :=
  ∀ a, x = .ok a → (A → ∃ b, y = .ok b) ∧ ∀ b, y = .ok b → R a b

namespace Tracks

variable {A : Prop} {R : α → β → Prop} {S : γ → δ → Prop} {x : Except ε α} {y : Except ε β}

theorem ok {a : α} {b : β} (h : R a b) : Tracks A R (.ok a : Except ε α) (.ok b) := by
  rintro _ ⟨⟩
  refine ⟨fun _ => ⟨b, rfl⟩, ?_⟩
  rintro _ ⟨⟩
  exact h

/-- Beside a step that returns. -/
theorem toOk {b : β} (h : ∀ a, x = .ok a → R a b) : Tracks A R x (.ok b) := by
  rintro a hx
  refine ⟨fun _ => ⟨b, rfl⟩, ?_⟩
  rintro _ ⟨⟩
  exact h a hx

theorem error {e : ε} : Tracks A R (.error e) y := by
  rintro a ⟨⟩

theorem refl (x : Except ε α) : Tracks A Eq x x := by
  rintro a hx
  refine ⟨fun _ => ⟨a, hx⟩, fun b hb => ?_⟩
  rw [hx] at hb
  exact Except.ok.inj hb

/-- Where a step is the same, so is its value, which is the one that it returns. -/
theorem self (x : Except ε α) : Tracks A (fun a b => a = b ∧ x = .ok a) x x := by
  rintro a hx
  refine ⟨fun _ => ⟨a, hx⟩, fun b hb => ⟨?_, hx⟩⟩
  exact Except.ok.inj (hx.symm.trans hb)

theorem mono {R' : α → β → Prop} (h : Tracks A R x y) (hR : ∀ a b, R a b → R' a b) :
    Tracks A R' x y :=
  fun a ha => (h a ha).imp_right fun hrelated b hb => hR a b (hrelated b hb)

theorem bind {f : α → Except ε γ} {g : β → Except ε δ} (h : Tracks A R x y)
    (hfg : ∀ a b, R a b → Tracks A S (f a) (g b)) : Tracks A S (x >>= f) (y >>= g) := by
  intro c hc
  obtain ⟨a, ha, hc⟩ := bind_eq_ok.mp hc
  obtain ⟨hsucceeds, hrelated⟩ := h a ha
  constructor
  · intro hA
    obtain ⟨b, hb⟩ := hsucceeds hA
    obtain ⟨d, hd⟩ := (hfg a b (hrelated b hb) c hc).1 hA
    exact ⟨d, bind_eq_ok.mpr ⟨b, hb, hd⟩⟩
  · intro d hd
    obtain ⟨b, hb, hd⟩ := bind_eq_ok.mp hd
    exact (hfg a b (hrelated b hb) c hc).2 d hd

/-- Lists mapped side by side, the second one the image of the first. -/
theorem mapM {f : α → Except ε γ} {g : β → Except ε δ} {ψ : α → β} {φ : γ → δ} (xs : List α)
    (hfg : ∀ a ∈ xs, Tracks A (φ · = ·) (f a) (g (ψ a))) :
    Tracks A (fun cs ds => cs.map φ = ds) (xs.mapM f) ((xs.map ψ).mapM g) := by
  induction xs with
  | nil => exact ok rfl
  | cons a xs ih =>
    rw [List.map_cons, List.mapM_cons, List.mapM_cons]
    refine (hfg a List.mem_cons_self).bind ?_
    rintro c _ rfl
    refine (ih fun a ha => hfg a (List.mem_cons_of_mem _ ha)).bind ?_
    rintro cs _ rfl
    exact ok rfl

end Tracks

/-- From related states, where the first step returns, so does the second one as long as `A` holds;
where both do, with related values in related states. -/
def Couples (A : Prop) (E : σ → τ → Prop) (V : α → β → Prop) (m : StateT σ (Except ε) α)
    (n : StateT τ (Except ε) β) : Prop :=
  ∀ s t, E s t → Tracks A (fun a b => V a.1 b.1 ∧ E a.2 b.2) (m.run s) (n.run t)

namespace Couples

variable {A : Prop} {E : σ → τ → Prop} {V : α → β → Prop} {W : γ → δ → Prop}
  {m : StateT σ (Except ε) α} {n : StateT τ (Except ε) β}

theorem pure {a : α} {b : β} (h : V a b) :
    Couples A E V (Pure.pure a : StateT σ (Except ε) α) (Pure.pure b) :=
  fun _ _ hE => .ok ⟨h, hE⟩

theorem lift {x : Except ε α} {y : Except ε β} (h : Tracks A V x y) :
    Couples A E V (liftM x : StateT σ (Except ε) α) (liftM y) := by
  intro s t hE
  change Tracks A _ (x >>= fun a => Except.ok (a, s)) (y >>= fun b => Except.ok (b, t))
  exact h.bind fun a b hab => .ok ⟨hab, hE⟩

theorem modify {f : σ → σ} {g : τ → τ} (h : ∀ s t, E s t → E (f s) (g t)) :
    Couples A E Eq (modify f : StateT σ (Except ε) Unit) (modify g) :=
  fun s t hE => .ok ⟨rfl, h s t hE⟩

theorem mono {V' : α → β → Prop} (h : Couples A E V m n) (hV : ∀ a b, V a b → V' a b) :
    Couples A E V' m n :=
  fun s t hE => (h s t hE).mono fun _ _ hrelated => ⟨hV _ _ hrelated.1, hrelated.2⟩

theorem get : Couples A E E (get : StateT σ (Except ε) σ) (get : StateT τ (Except ε) τ) :=
  fun _ _ hE => .ok ⟨hE, hE⟩

theorem bind {f : α → StateT σ (Except ε) γ} {g : β → StateT τ (Except ε) δ} (h : Couples A E V m n)
    (hfg : ∀ a b, V a b → Couples A E W (f a) (g b)) : Couples A E W (m >>= f) (n >>= g) := by
  intro s t hE
  rw [StateT.run_bind, StateT.run_bind]
  exact (h s t hE).bind fun a b hab => hfg a.1 b.1 hab.1 a.2 b.2 hab.2

/-- The rest behind steps that return the same. -/
theorem andThen {n : StateT τ (Except ε) α} {f : α → StateT σ (Except ε) γ}
    {g : α → StateT τ (Except ε) δ} (h : Couples A E Eq m n) (hfg : ∀ a, Couples A E W (f a) (g a)) :
    Couples A E W (m >>= f) (n >>= g) := by
  refine h.bind ?_
  rintro a _ rfl
  exact hfg a

/-- Loops side by side, the second one over the image of the first list. -/
theorem foldlM {f : γ → α → StateT σ (Except ε) γ} {g : δ → β → StateT τ (Except ε) δ} {ψ : α → β}
    {φ : γ → δ} (xs : List α) (hfg : ∀ c, ∀ a ∈ xs, Couples A E (φ · = ·) (f c a) (g (φ c) (ψ a)))
    (c : γ) : Couples A E (φ · = ·) (xs.foldlM f c) ((xs.map ψ).foldlM g (φ c)) := by
  induction xs generalizing c with
  | nil => exact pure rfl
  | cons a xs ih =>
    rw [List.map_cons, List.foldlM_cons, List.foldlM_cons]
    refine (hfg c a List.mem_cons_self).bind ?_
    rintro c' _ rfl
    exact ih (fun c a ha => hfg c a (List.mem_cons_of_mem _ ha)) c'

theorem mapM {f : α → StateT σ (Except ε) γ} {g : β → StateT τ (Except ε) δ} {ψ : α → β} {φ : γ → δ}
    (xs : List α) (hfg : ∀ a ∈ xs, Couples A E (φ · = ·) (f a) (g (ψ a))) :
    Couples A E (fun cs ds => cs.map φ = ds) (xs.mapM f) ((xs.map ψ).mapM g) := by
  induction xs with
  | nil => exact pure rfl
  | cons a xs ih =>
    rw [List.map_cons, List.mapM_cons, List.mapM_cons]
    refine (hfg a List.mem_cons_self).bind ?_
    rintro c _ rfl
    refine (ih fun a ha => hfg a (List.mem_cons_of_mem _ ha)).bind ?_
    rintro cs _ rfl
    exact pure rfl

/-- Loops over one list. -/
theorem foldlM_same {f : γ → α → StateT σ (Except ε) γ} {g : δ → α → StateT τ (Except ε) δ} {φ : γ → δ}
    (xs : List α) (hfg : ∀ c, ∀ a ∈ xs, Couples A E (φ · = ·) (f c a) (g (φ c) a)) (c : γ) :
    Couples A E (φ · = ·) (xs.foldlM f c) (xs.foldlM g (φ c)) := by
  have h := foldlM (ψ := id) xs hfg c
  rw [List.map_id] at h
  exact h

theorem foldlM_eq {f : γ → α → StateT σ (Except ε) γ} {g : γ → α → StateT τ (Except ε) γ}
    (xs : List α) (hfg : ∀ c, ∀ a ∈ xs, Couples A E Eq (f c a) (g c a)) (c : γ) :
    Couples A E Eq (xs.foldlM f c) (xs.foldlM g c) := foldlM_same (φ := id) xs hfg c

end Couples

/-! ## Steps side by side whatever their states -/

theorem Meets.of_eq_ok {P : α → Prop} {Q : ε → Prop} {x : Except ε α} {a : α} (hx : x = .ok a)
    (h : P a) : Meets P Q x := by
  rw [hx]
  exact h

/-- From every state, the step returns a value that has `P`. -/
abbrev Returns (P : α → Prop) (m : StateT σ (Except ε) α) : Prop := Yields P (fun _ => False) m

theorem Returns.exists_run {P : α → Prop} {m : StateT σ (Except ε) α} (h : Returns P m) (s : σ) :
    ∃ r, m.run s = .ok r ∧ P r.1 := by
  have hs := h s
  cases hrun : m.run s with
  | ok r =>
    rw [hrun] at hs
    exact ⟨r, rfl, hs⟩
  | error e =>
    rw [hrun] at hs
    exact hs.elim

theorem Returns.of_ok {x : Except ε α} {a : α} (h : x = .ok a) :
    Returns (a = ·) (liftM x : StateT σ (Except ε) α) := Yields.lift (.of_eq_ok h rfl)

/-- What a step returns has all that is known of it. -/
theorem Returns.all {ι : Sort*} {P : ι → α → Prop} {R : α → Prop} {m : StateT σ (Except ε) α}
    (h : Returns R m) (hall : ∀ i, Returns (P i) m) : Returns (fun a => ∀ i, P i a) m := by
  intro s
  obtain ⟨r, hr, -⟩ := h.exists_run s
  exact .of_eq_ok hr fun i => (hall i s).of_ok hr

/-- From some state, the step returns the value. -/
def MayReturn (m : StateT σ (Except ε) α) (a : α) : Prop := ∃ s s', m.run s = .ok (a, s')

namespace MayReturn

theorem bind {m : StateT σ (Except ε) α} {f : α → StateT σ (Except ε) β} {b : β}
    (h : MayReturn (m >>= f) b) : ∃ a, MayReturn m a ∧ MayReturn (f a) b := by
  obtain ⟨s, s', h⟩ := h
  rw [StateT.run_bind] at h
  obtain ⟨⟨a, middle⟩, ha, hb⟩ := bind_eq_ok.mp h
  exact ⟨a, ⟨s, middle, ha⟩, ⟨middle, s', hb⟩⟩

theorem lift {x : Except ε α} {a : α} (h : MayReturn (liftM x : StateT σ (Except ε) α) a) :
    x = .ok a := by
  obtain ⟨s, s', h⟩ := h
  obtain ⟨a', hx, h⟩ := bind_eq_ok.mp h
  change x = .ok a' at hx
  exact hx.trans (congrArg Except.ok (Prod.ext_iff.mp (Except.ok.inj h)).1)

theorem pure {a b : α} (h : MayReturn (Pure.pure a : StateT σ (Except ε) α) b) : a = b := by
  obtain ⟨s, s', h⟩ := h
  exact (Prod.ext_iff.mp (Except.ok.inj h)).1

theorem of_yields {m : StateT σ (Except ε) α} {P : α → Prop} {Q : ε → Prop} {a : α}
    (h : MayReturn m a) (hm : Yields P Q m) : P a := by
  obtain ⟨s, s', h⟩ := h
  exact (hm s).of_ok h

end MayReturn

/-- Where the first step may return, the second one returns from every state, with related values. -/
abbrev Aligned (V : α → β → Prop) (m : StateT σ (Except ε) α) (n : StateT τ (Except ε) β) : Prop :=
  Couples True (fun _ _ => True) V m n

namespace Aligned

variable {V : α → β → Prop} {m : StateT σ (Except ε) α} {n : StateT τ (Except ε) β}

theorem returns (h : Aligned V m n) {a : α} (hm : MayReturn m a) : Returns (V a) n := by
  obtain ⟨s, s', hm⟩ := hm
  intro t
  obtain ⟨hsucceeds, hrelated⟩ := h s t trivial _ hm
  obtain ⟨b, hb⟩ := hsucceeds trivial
  exact .of_eq_ok hb (hrelated b hb).1

/-- A step that always returns, beside any other. -/
theorem of_returns {P : β → Prop} (h : Returns P n) : Aligned (fun _ b => P b) m n := by
  intro s t _ r _
  obtain ⟨b, hb, hP⟩ := h.exists_run t
  refine ⟨fun _ => ⟨b, hb⟩, fun b' hb' => ⟨?_, trivial⟩⟩
  obtain rfl := Except.ok.inj (hb.symm.trans hb')
  exact hP

theorem refl (x : Except ε α) :
    Aligned Eq (liftM x : StateT σ (Except ε) α) (liftM x : StateT τ (Except ε) α) :=
  Couples.lift (Tracks.refl x)

/-- Lists mapped side by side. -/
theorem mapM {R : α → β → Prop} {W : γ → δ → Prop} {f : α → StateT σ (Except ε) γ}
    {g : β → StateT τ (Except ε) δ} (hfg : ∀ a b, R a b → Aligned W (f a) (g b)) {xs : List α}
    {ys : List β} (h : List.Forall₂ R xs ys) :
    Aligned (List.Forall₂ W) (xs.mapM f) (ys.mapM g) := by
  induction h with
  | nil => exact Couples.pure .nil
  | cons hab _ ih =>
    rw [List.mapM_cons, List.mapM_cons]
    refine (hfg _ _ hab).bind fun c d hcd => ?_
    refine ih.bind fun cs ds hrest => ?_
    exact Couples.pure (.cons hcd hrest)

/-- Loops over one list side by side. -/
theorem foldlM {W : γ → δ → Prop} {f : γ → α → StateT σ (Except ε) γ}
    {g : δ → α → StateT τ (Except ε) δ} {xs : List α}
    (hfg : ∀ c d, ∀ a ∈ xs, W c d → Aligned W (f c a) (g d a)) {c : γ} {d : δ} (h : W c d) :
    Aligned W (xs.foldlM f c) (xs.foldlM g d) := by
  induction xs generalizing c d with
  | nil => exact Couples.pure h
  | cons a xs ih =>
    rw [List.foldlM_cons, List.foldlM_cons]
    refine (hfg c d a List.mem_cons_self h).bind fun c' d' h' => ?_
    exact ih (fun c d a ha => hfg c d a (List.mem_cons_of_mem _ ha)) h'

end Aligned

/-- A loop whose passes only append has appended one group for each pass. -/
theorem foldlM_groups {f : List β → α → StateT σ (Except ε) (List β)} {Q : α → List β → Prop}
    {xs : List α} (hf : ∀ before, ∀ a ∈ xs, ∀ after, MayReturn (f before a) after →
      ∃ group, after = before ++ group ∧ Q a group) {before after : List β}
    (h : MayReturn (xs.foldlM f before) after) :
    ∃ groups : List (List β), after = before ++ groups.flatten ∧ List.Forall₂ Q xs groups := by
  induction xs generalizing before with
  | nil => exact ⟨[], by rw [← h.pure, List.flatten_nil, List.append_nil], .nil⟩
  | cons a xs ih =>
    rw [List.foldlM_cons] at h
    obtain ⟨middle, hmiddle, h⟩ := h.bind
    obtain ⟨group, rfl, hQ⟩ := hf before a List.mem_cons_self middle hmiddle
    obtain ⟨groups, rfl, hgroups⟩ :=
      ih (fun before a ha => hf before a (List.mem_cons_of_mem _ ha)) h
    exact ⟨group :: groups, by rw [List.flatten_cons, List.append_assoc], .cons hQ hgroups⟩

end Iperf3Lib

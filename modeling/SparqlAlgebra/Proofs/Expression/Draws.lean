import SparqlAlgebra.Expression.Evaluate

/-!
# How many values an expression has

An expression that calls no volatile function without arguments is compiled to one that draws nothing, and the value of
such an expression for a row does not depend on the seed of the row. What is drawn inside a pattern whose existence is
tested is a matter of that pattern.

Only a custom function at the root of an expression can give several terms at once. Every other expression has at most
one value, the one that it has as a part of another expression.
-/

namespace SparqlAlgebra

/-! ## Expressions that draw no values -/

namespace Compiled

mutual

/-- Whether no value is drawn. -/
def drawsNothing : Compiled → Bool
  | .constant _ => true
  | .var _ => true
  | .or a b => a.drawsNothing && b.drawsNothing
  | .and a b => a.drawsNothing && b.drawsNothing
  | .not a => a.drawsNothing
  | .equal a b => a.drawsNothing && b.drawsNothing
  | .sameTerm a b => a.drawsNothing && b.drawsNothing
  | .compare _ a b => a.drawsNothing && b.drawsNothing
  | .member a es => a.drawsNothing && allDrawNothing es
  | .arithmetic _ a b => a.drawsNothing && b.drawsNothing
  | .sign _ a => a.drawsNothing
  | .answer _ => true
  | .isBound _ => true
  | .choose a b c => a.drawsNothing && b.drawsNothing && c.drawsNothing
  | .coalesce es => allDrawNothing es
  | .call _ es => allDrawNothing es
  | .draw .. => false
  | .custom _ es => allDrawNothing es

/-- Whether none of several expressions draws a value. -/
def allDrawNothing : List Compiled → Bool
  | [] => true
  | e :: es => e.drawsNothing && allDrawNothing es

end

variable {s : Solution} {as : List Bool}

mutual

/-- Without draws the seed of a row does not matter. -/
theorem term?_seed (m n : Nat) : (e : Compiled) → e.drawsNothing = true → e.term? ⟨s, as, m⟩ = e.term? ⟨s, as, n⟩
  | .constant _, _ | .var _, _ | .answer _, _ | .isBound _, _ => by simp only [term?]
  | .or a b, h | .and a b, h | .equal a b, h | .sameTerm a b, h | .compare _ a b, h | .arithmetic _ a b, h => by
    rw [drawsNothing, Bool.and_eq_true] at h
    simp only [term?, term?_seed m n a h.1, term?_seed m n b h.2]
  | .not a, h | .sign _ a, h => by
    rw [drawsNothing] at h
    simp only [term?, term?_seed m n a h]
  | .member a es, h => by
    rw [drawsNothing, Bool.and_eq_true] at h
    simp only [term?, term?_seed m n a h.1, terms?_seed m n es h.2]
  | .choose a b c, h => by
    rw [drawsNothing, Bool.and_eq_true, Bool.and_eq_true] at h
    simp only [term?, term?_seed m n a h.1.1, term?_seed m n b h.1.2, term?_seed m n c h.2]
  | .coalesce es, h | .call _ es, h | .custom _ es, h => by
    rw [drawsNothing] at h
    simp only [term?, terms?_seed m n es h]
  | .draw _ _, h => by simp [drawsNothing] at h

/-- The values of several expressions that draw nothing do not depend on the seed. -/
theorem terms?_seed (m n : Nat) : (es : List Compiled) → allDrawNothing es = true →
    terms? ⟨s, as, m⟩ es = terms? ⟨s, as, n⟩ es
  | [], _ => by simp only [terms?]
  | e :: es, h => by
    rw [allDrawNothing, Bool.and_eq_true] at h
    simp only [terms?, term?_seed m n e h.1, terms?_seed m n es h.2]

end

end Compiled

/-- The volatile functions are those that draw a value. -/
theorem Builtin.isSome_draw? (b : Builtin) : b.draw?.isSome = b.isVolatile := by
  cases b <;> rfl

namespace Expression

mutual

/-- Whether an expression calls no volatile function without arguments. -/
def isSteady : Expression → Bool
  | .constant _ => true
  | .var _ => true
  | .or a b => a.isSteady && b.isSteady
  | .and a b => a.isSteady && b.isSteady
  | .not a => a.isSteady
  | .equal a b => a.isSteady && b.isSteady
  | .sameTerm a b => a.isSteady && b.isSteady
  | .compare _ a b => a.isSteady && b.isSteady
  | .member a es => a.isSteady && allSteady es
  | .arithmetic _ a b => a.isSteady && b.isSteady
  | .sign _ a => a.isSteady
  | .hasSolution _ => true
  | .isBound _ => true
  | .choose a b c => a.isSteady && b.isSteady && c.isSteady
  | .coalesce es => allSteady es
  | .call f es => !(f.builtin?.any Builtin.isVolatile && es.isEmpty) && allSteady es

/-- Whether this holds of several expressions. -/
def allSteady : List Expression → Bool
  | [] => true
  | e :: es => e.isSteady && allSteady es

end

/-- A compilation that draws nothing: it gives no number to a draw, and its result has a property. -/
def Compilation.Steady {α : Type} (Q : α → Prop) (x : Compilation α) : Prop :=
  ∀ n a m, x.run n = .ok (a, m) → m.draws = n.draws ∧ Q a

namespace Compilation

variable {α β : Type} {Q : α → Prop} {R : β → Prop} {x : Compilation α} {f : α → Compilation β} {a : α}

/-- Nothing is numbered for a value that is there. -/
theorem Steady.pure (h : Q a) : Steady Q (Pure.pure a : Compilation α) := by
  rintro n b m ⟨⟩
  exact ⟨rfl, h⟩

/-- Two steps draw nothing if neither does. -/
theorem Steady.bind (hx : Steady Q x) (hf : ∀ a, Q a → Steady R (f a)) : Steady R (x >>= f) := by
  intro n b m h
  rw [StateT.run_bind] at h
  cases hr : x.run n with
  | error e =>
    rw [hr] at h
    cases h
  | ok y =>
    obtain ⟨a, k⟩ := y
    rw [hr] at h
    obtain ⟨hk, ha⟩ := hx n a k hr
    obtain ⟨hm, hb⟩ := hf a ha k b m h
    exact ⟨hm.trans hk, hb⟩

/-- A test is numbered, not a draw. -/
theorem Steady.nextTest : Steady (fun _ => True) Expression.nextTest := by
  rintro n a m ⟨⟩
  exact ⟨rfl, trivial⟩

/-- An operator with two operands draws nothing if they do not. -/
theorem Steady.pair {γ : Type} {y : Compilation β} {S : γ → Prop} {op : α → β → γ} (hx : Steady Q x)
    (hy : Steady R y) (hop : ∀ a b, Q a → R b → S (op a b)) : Steady S (do return op (← x) (← y)) :=
  hx.bind fun _ ha => hy.bind fun _ hb => .pure (hop _ _ ha hb)

end Compilation

/-- A name that is not volatile, or is called with arguments, stands for no draw. -/
theorem resolve_ne_draw {c : Compiler} {f : FunctionName} {es : List Expression}
    (h : (f.builtin?.any Builtin.isVolatile && es.isEmpty) = false) (d : Draw) :
    resolve c f es.length ≠ .ok (.draw d) := by
  intro hr
  unfold resolve at hr
  split at hr
  · rename_i b hb
    rw [hb, Option.any_some] at h
    split at hr
    · cases hr
    split at hr
    · cases hr
    split at hr
    · rename_i d' hd
      -- What can be drawn is volatile, so there are arguments and the call is not a draw.
      have hv : b.isVolatile = true := by
        rw [← b.isSome_draw?, hd]
        rfl
      have hes : es ≠ [] := by
        rintro rfl
        simp [hv] at h
      rw [if_neg (by simpa using hes)] at hr
      cases hr
    · cases hr
  · split at hr
    · cases hr
    · split at hr
      · cases hr
      · split at hr <;> cases hr

/-- Finding out what is called draws nothing. -/
theorem steady_resolve {c : Compiler} {f : FunctionName} {es : List Expression}
    (h : (f.builtin?.any Builtin.isVolatile && es.isEmpty) = false) :
    Compilation.Steady (fun callee => ∀ d, callee ≠ .draw d) (liftM (resolve c f es.length) : Compilation Callee) := by
  intro n callee m hrun
  cases hr : resolve c f es.length with
  | error e =>
    rw [hr] at hrun
    cases hrun
  | ok x =>
    rw [hr] at hrun
    cases hrun
    refine ⟨rfl, fun d hd => ?_⟩
    rw [hd] at hr
    exact resolve_ne_draw h d hr

mutual

/-- A steady expression is compiled to one that draws nothing, and no number is given to a draw on the way. -/
theorem steady_compile (c : Compiler) : (e : Expression) → e.isSteady = true →
    Compilation.Steady (fun r => r.drawsNothing = true) (e.compile c)
  | .constant _, _ | .var _, _ | .isBound _, _ => by
    rw [compile]
    exact .pure rfl
  | .or a b, h | .and a b, h | .equal a b, h | .sameTerm a b, h | .compare _ a b, h | .arithmetic _ a b, h => by
    rw [isSteady, Bool.and_eq_true] at h
    rw [compile]
    exact (steady_compile c a h.1).pair (steady_compile c b h.2) fun x y hx hy => by
      rw [Compiled.drawsNothing, hx, hy, Bool.and_self]
  | .not a, h | .sign _ a, h => by
    rw [isSteady] at h
    rw [compile]
    exact (steady_compile c a h).bind fun x hx => .pure hx
  | .member a es, h => by
    rw [isSteady, Bool.and_eq_true] at h
    rw [compile]
    exact (steady_compile c a h.1).pair (steady_compileAll c es h.2) fun x ys hx hys => by
      rw [Compiled.drawsNothing, hx, hys, Bool.and_self]
  | .hasSolution _, _ => by
    rw [compile]
    exact Compilation.Steady.nextTest.bind fun _ _ => .pure rfl
  | .choose a b d, h => by
    rw [isSteady, Bool.and_eq_true, Bool.and_eq_true] at h
    rw [compile]
    refine (steady_compile c a h.1.1).bind fun x hx => (steady_compile c b h.1.2).bind fun y hy =>
      (steady_compile c d h.2).bind fun z hz => .pure ?_
    rw [Compiled.drawsNothing, hx, hy, hz, Bool.and_self, Bool.and_self]
  | .coalesce es, h => by
    rw [isSteady] at h
    rw [compile]
    exact (steady_compileAll c es h).bind fun ys hys => .pure hys
  | .call f es, h => by
    rw [isSteady, Bool.and_eq_true, Bool.not_eq_true'] at h
    rw [compile]
    refine (steady_resolve h.1).bind fun callee hcallee => ?_
    cases callee with
    | constant t => exact .pure rfl
    | draw d => exact (hcallee d rfl).elim
    | builtin b => exact (steady_compileAll c es h.2).bind fun ys hys => .pure hys
    | custom g => exact (steady_compileAll c es h.2).bind fun ys hys => .pure hys

/-- Several steady expressions are compiled to ones that draw nothing. -/
theorem steady_compileAll (c : Compiler) : (es : List Expression) → allSteady es = true →
    Compilation.Steady (fun rs => Compiled.allDrawNothing rs = true) (compileAll c es)
  | [], _ => by
    rw [compileAll]
    exact .pure rfl
  | e :: es, h => by
    rw [allSteady, Bool.and_eq_true] at h
    rw [compileAll]
    exact (steady_compile c e h.1).pair (steady_compileAll c es h.2) fun x ys hx hys => by
      rw [Compiled.allDrawNothing, hx, hys, Bool.and_self]

end

/-- What is ready has been compiled with numbers that start at zero. -/
theorem run_compile_of_ready {c : Compiler} {e : Expression} {r : Ready} (hr : e.ready c = .ok r) :
    (e.compile c).run ⟨0, 0⟩ = .ok (r.root, ⟨r.tests, r.draws⟩) := by
  unfold ready at hr
  cases hrun : (e.compile c).run ⟨0, 0⟩ with
  | error x =>
    rw [hrun] at hr
    cases hr
  | ok y =>
    rw [hrun] at hr
    cases hr
    rfl

/-- A steady expression is made ready without any draws. -/
theorem ready_steady {c : Compiler} {e : Expression} {r : Ready} (h : e.isSteady = true) (hr : e.ready c = .ok r) :
    r.draws = 0 ∧ r.root.drawsNothing = true :=
  steady_compile c e h ⟨0, 0⟩ _ _ (run_compile_of_ready hr)

end Expression

/-! ## Expressions with a single value -/

namespace Compiled

/-- Whether a custom function is called last. -/
def isCustom : Compiled → Bool
  | .custom .. => true
  | _ => false

/-- A term is the only value if no custom function is called last. -/
theorem value?_of_not_custom {e : Compiled} (h : e.isCustom = false) (r : Row) :
    e.value? r = (e.term? r).map .term := by
  cases e with
  | custom f es => cases h
  | _ => rfl

end Compiled

namespace Expression

/-- Whether an expression is a call of a function that is not built in. -/
def isCustomCall : Expression → Bool
  | .call f _ => f.builtin?.isNone
  | _ => false

/-- A compilation whose result, if there is one, has a property. -/
def Compilation.Results {α : Type} (Q : α → Prop) (x : Compilation α) : Prop := ∀ n a m, x.run n = .ok (a, m) → Q a

namespace Compilation

variable {α β : Type} {P : α → Prop} {Q : β → Prop} {x : Compilation α} {f : α → Compilation β}

/-- A value that is there has its property. -/
theorem Results.pure {b : β} (h : Q b) : Results Q (Pure.pure b : Compilation β) := by
  rintro n a m ⟨⟩
  exact h

/-- What follows a result may rely on its property. -/
theorem Results.bind (hx : Results P x) (hf : ∀ a, P a → Results Q (f a)) : Results Q (x >>= f) := by
  intro n b m h
  rw [StateT.run_bind] at h
  cases hr : x.run n with
  | error e =>
    rw [hr] at h
    cases h
  | ok y =>
    obtain ⟨a, k⟩ := y
    rw [hr] at h
    exact hf a (hx n a k hr) k b m h

/-- What comes last decides. -/
theorem Results.after (hf : ∀ a, Results Q (f a)) : Results Q (x >>= f) :=
  .bind (fun _ _ _ _ => trivial) fun a (_ : True) => hf a

end Compilation

open Compilation

/-- A name that is built in does not stand for a custom function. -/
theorem resolve_ne_custom {c : Compiler} {f : FunctionName} {n : Nat} (h : f.builtin?.isNone = false)
    (g : CustomFunction) : resolve c f n ≠ .ok (.custom g) := by
  intro hr
  unfold resolve at hr
  split at hr
  · split at hr
    · cases hr
    split at hr
    · cases hr
    split at hr
    · split at hr <;> cases hr
    · cases hr
  · rename_i hb
    rw [hb] at h
    cases h

/-- The name of a built-in function is not resolved to a custom one. -/
theorem results_resolve {c : Compiler} {f : FunctionName} {n : Nat} (h : f.builtin?.isNone = false) :
    Results (fun callee => ∀ g, callee ≠ .custom g) (liftM (resolve c f n) : Compilation Callee) := by
  intro k callee m hrun g hg
  cases hr : resolve c f n with
  | error x =>
    rw [hr] at hrun
    cases hrun
  | ok found =>
    rw [hr] at hrun
    cases hrun
    rw [hg] at hr
    exact resolve_ne_custom h g hr

/-- Only a call of a function that is not built in is compiled to one of a custom function. -/
theorem results_compile (c : Compiler) (e : Expression) (h : e.isCustomCall = false) :
    Results (fun r => r.isCustom = false) (e.compile c) := by
  cases e with
  | constant _ | var _ | isBound _ =>
    rw [compile]
    exact .pure rfl
  | not _ | sign _ _ | hasSolution _ | coalesce _ =>
    rw [compile]
    exact .after fun _ => .pure rfl
  | or _ _ | and _ _ | equal _ _ | sameTerm _ _ | compare _ _ _ | arithmetic _ _ _ | member _ _ =>
    rw [compile]
    exact .after fun _ => .after fun _ => .pure rfl
  | choose _ _ _ =>
    rw [compile]
    exact .after fun _ => .after fun _ => .after fun _ => .pure rfl
  | call f es =>
    rw [compile]
    refine (results_resolve h).bind fun callee hcallee => ?_
    cases callee with
    | constant t => exact .pure rfl
    | draw d => exact .after fun _ => .pure rfl
    | builtin b => exact .after fun _ => .pure rfl
    | custom g => exact (hcallee g rfl).elim

/-- An expression that is no call of a custom function has at most one value. -/
theorem value?_of_ready {c : Compiler} {e : Expression} {r : Ready} (h : e.isCustomCall = false)
    (hr : e.ready c = .ok r) (row : Row) : r.root.value? row = (r.root.term? row).map .term :=
  Compiled.value?_of_not_custom (results_compile c e h ⟨0, 0⟩ _ _ (run_compile_of_ready hr)) row

end Expression

end SparqlAlgebra

import FormScaffold.Proofs.Model.Values
import FormScaffold.Proofs.Template.Involvement
import FormScaffold.Proofs.Template.NodeSoundness

/-!
# Rendering and the clock

A template sees the clock in two ways: through the constants that the engine adds to its model,
and through the functions it calls.  A constant never replaces a value of the model, so a model
with all of them hides the clock.  What is left are the calls.  If none of the templates involved
in a rendering calls a function of the clock, two renderings that differ in the time alone go
through the same states and end alike.
-/

namespace FormScaffold.Template

open FormScaffold FormScaffold.Json FormScaffold.Calendar

variable {involved : String → Prop}

/-! ## Steps that do the same -/

theorem bind_error {α β : Type} {r : Run α} {s s' : RenderState} {fault : Fault}
    (h : r s = (.error fault, s')) (f : α → Run β) : (r >>= f) s = (.error fault, s') := by
  change (ExceptT.bind r f) s = (.error fault, s')
  simp [ExceptT.bind, ExceptT.mk, bind, StateT.bind, h, ExceptT.bindCont]
  rfl

/-- Two steps do the same in every steady state.  They leave it steady, and close no frame that they
have not opened. -/
def Alike (involved : String → Prop) {α : Type} (r r' : Run α) : Prop :=
  ∀ s : RenderState, s.IsSteady involved →
    r s = r' s ∧ (r s).2.IsSteady involved ∧ s.frames.length ≤ (r s).2.frames.length

/-- Two ways to render bodies do the same with those that are steady. -/
def AreAlikeRenders (involved : String → Prop) (render render' : List Node → Run String) : Prop :=
  ∀ body, IsSteadyBody involved body → Alike involved (render body) (render' body)

section Alike

variable {α β : Type} {r r' : Run α} {f f' : α → Run β}

theorem alike_pure (a : α) : Alike involved (pure a) (pure a) :=
  fun _ hs => ⟨rfl, hs, Nat.le_refl _⟩

theorem alike_throw (fault : Fault) : Alike involved (throw fault : Run α) (throw fault) :=
  fun _ hs => ⟨rfl, hs, Nat.le_refl _⟩

theorem alike_fail (text : String) : Alike involved (fail text : Run α) (fail text) :=
  alike_throw [text]

theorem alike_bind (h : Alike involved r r') (hf : ∀ a, Alike involved (f a) (f' a)) :
    Alike involved (r >>= f) (r' >>= f') := by
  intro s hs
  obtain ⟨hsame, hsteady, hlength⟩ := h s hs
  rcases hrun : r s with ⟨result, s'⟩
  rw [hrun] at hsame hsteady hlength
  cases result with
  | error fault =>
      rw [bind_error hrun, bind_error hsame.symm]
      exact ⟨rfl, hsteady, hlength⟩
  | ok a =>
      rw [bind_ok hrun, bind_ok hsame.symm]
      obtain ⟨hsame', hsteady', hlength'⟩ := hf a s' hsteady
      exact ⟨hsame', hsteady', Nat.le_trans hlength hlength'⟩

theorem alike_map (g : α → β) (h : Alike involved r r') : Alike involved (g <$> r) (g <$> r') := by
  rw [← bind_pure_comp, ← bind_pure_comp]
  exact alike_bind h fun a => alike_pure (g a)

/-- What follows may rely on the state being steady. -/
theorem alike_get_bind {f f' : RenderState → Run β}
    (h : ∀ s, s.IsSteady involved → Alike involved (f s) (f' s)) :
    Alike involved (get >>= f) (get >>= f') := by
  intro s hs
  have hget : (get : Run RenderState) s = (.ok s, s) := rfl
  rw [bind_ok hget, bind_ok hget]
  exact h s hs s hs

theorem alike_pure_bind {a : α} (h : Alike involved (f a) (f' a)) :
    Alike involved (pure a >>= f) (pure a >>= f') := by
  rw [pure_bind, pure_bind]
  exact h

/-- What follows a failure does not count. -/
theorem alike_throw_bind (fault : Fault) :
    Alike involved ((throw fault : Run α) >>= f) (throw fault >>= f') := by
  intro s hs
  have hthrow : (throw fault : Run α) s = (.error fault, s) := rfl
  rw [bind_error hthrow, bind_error hthrow]
  exact ⟨rfl, hs, Nat.le_refl _⟩

/-- What follows may rely on the result being there. -/
theorem alike_orFail_bind {x : Except String α}
    (h : ∀ a, x = .ok a → Alike involved (f a) (f' a)) :
    Alike involved (orFail x >>= f) (orFail x >>= f') := by
  cases x with
  | ok a => exact alike_pure_bind (h a rfl)
  | error text => exact alike_throw_bind [text]

theorem alike_orFail (x : Except String α) : Alike involved (orFail x) (orFail x) := by
  cases x with
  | ok a => exact alike_pure a
  | error text => exact alike_fail text

theorem alike_modify {g : RenderState → RenderState}
    (h : ∀ s, s.IsSteady involved → (g s).IsSteady involved ∧
      s.frames.length ≤ (g s).frames.length) :
    Alike involved (modify g) (modify g) :=
  fun s hs => ⟨rfl, h s hs⟩

/-- A change that leaves the frames to their templates, and the macros as they are. -/
theorem alike_modify_of_templates {g : RenderState → RenderState}
    (hframes : ∀ s, (g s).frames.map Frame.template = s.frames.map Frame.template)
    (hmacros : ∀ s, (g s).macros = s.macros) : Alike involved (modify g) (modify g) := by
  refine alike_modify fun s hs => ?_
  have hlength : (g s).frames.length = s.frames.length := by
    simpa using congrArg List.length (hframes s)
  refine ⟨⟨?_, fun f hf => ?_, ?_⟩, Nat.le_of_eq hlength.symm⟩
  · exact List.length_pos_iff.mp (hlength ▸ List.length_pos_iff.mpr hs.nonempty)
  · have hmem : f.template ∈ s.frames.map Frame.template := hframes s ▸ List.mem_map_of_mem hf
    obtain ⟨k, hk, htemplate⟩ := List.mem_map.mp hmem
    exact htemplate ▸ hs.frames k hk
  · rw [hmacros]
    exact hs.macros

theorem alike_outcome (h : Alike involved r r') : Alike involved (outcome r) (outcome r') := by
  intro s hs
  obtain ⟨hsame, hsteady, hlength⟩ := h s hs
  have hrun : ∀ q : Run α, outcome q s = (.ok (q s).1, (q s).2) := fun _ => rfl
  rw [hrun, hrun, ← hsame]
  exact ⟨rfl, hsteady, hlength⟩

theorem alike_explained (text : String) (h : Alike involved r r') :
    Alike involved (explained text r) (explained text r') := by
  unfold explained
  refine alike_bind (alike_outcome h) fun found => ?_
  cases found with
  | ok a => exact alike_pure a
  | error causes => exact alike_throw _

theorem alike_unescaped (h : Alike involved r r') :
    Alike involved (unescaped r) (unescaped r') := by
  unfold unescaped
  refine alike_get_bind fun s _ => ?_
  refine alike_bind (alike_modify_of_templates (fun _ => rfl) fun _ => rfl) fun _ => ?_
  -- escaping is put back even after a failure
  refine alike_bind (alike_outcome h) fun found => ?_
  refine alike_bind (alike_modify_of_templates (fun _ => rfl) fun _ => rfl) fun _ => ?_
  cases found with
  | ok a => exact alike_pure a
  | error fault => exact alike_throw fault

/-- A step in a frame of its own. -/
theorem alike_framed (h : Alike involved r r') {frame : Frame} (hframe : involved frame.template) :
    Alike involved (do openFrame frame; let a ← r; closeFrame; pure a)
      (do openFrame frame; let a ← r'; closeFrame; pure a) := by
  intro s hs
  have hopened : RenderState.IsSteady involved { s with frames := frame :: s.frames } := by
    refine ⟨List.cons_ne_nil _ _, fun f hf => ?_, hs.macros⟩
    rcases List.mem_cons.mp hf with rfl | hf
    · exact hframe
    · exact hs.frames f hf
  obtain ⟨hsame, hsteady, hlength⟩ := h _ hopened
  rw [bind_ok (openFrame_ok frame s), bind_ok (openFrame_ok frame s)]
  rcases hrun : r { s with frames := frame :: s.frames } with ⟨result, s'⟩
  rw [hrun] at hsame hsteady hlength
  replace hlength : s.frames.length + 1 ≤ s'.frames.length := hlength
  cases result with
  | error fault =>
      -- a failure leaves the frame open
      rw [bind_error hrun, bind_error hsame.symm]
      exact ⟨rfl, hsteady, Nat.le_of_succ_le hlength⟩
  | ok a =>
      have hshorter : (s'.frames.drop 1).length = s'.frames.length - 1 := List.length_drop
      have hpositive := List.length_pos_iff.mpr hs.nonempty
      -- the step may have left frames of its own open, so what is closed need not be the frame that
      -- was opened; at least as many as before stay open
      rw [bind_ok hrun, bind_ok hsame.symm]
      refine ⟨rfl, ⟨?_, fun f hf => hsteady.frames f (List.mem_of_mem_drop hf), hsteady.macros⟩, ?_⟩
      · show s'.frames.drop 1 ≠ []
        exact List.length_pos_iff.mp (by omega)
      · show s.frames.length ≤ (s'.frames.drop 1).length
        omega

end Alike

/-! ## Values at two times -/

/-- The same surroundings at another time. -/
def Surroundings.atTime (w : Surroundings) (now : Instant) : Surroundings :=
  { w with world := ⟨now, w.world.environment⟩ }

@[simp]
theorem Surroundings.atTime_library (w : Surroundings) (now : Instant) :
    (w.atTime now).library = w.library :=
  rfl

@[simp]
theorem Surroundings.atTime_parents (w : Surroundings) (now : Instant) :
    (w.atTime now).parents = w.parents :=
  rfl

/-- A function that is none of the clock does not look at the time. -/
theorem apply_eq_of_not_mem_clockFunctions {name : String} {f : Functions.TemplateFunction}
    (hf : Functions.all.lookup name = some f) (hname : name ∉ clockFunctions)
    (world : Functions.World) (now : Instant) (args : Keyed Value) :
    f ⟨now, world.environment⟩ args = f world args := by
  obtain ⟨before, after, hall, -⟩ := List.lookup_eq_some_iff.mp hf
  have hmem : (name, f) ∈ Functions.all := by
    rw [hall]
    simp
  simp only [Functions.all, List.mem_cons, List.not_mem_nil, or_false, Prod.mk.injEq] at hmem
  -- the second and the last are functions of the clock, and the others do not mention the time
  rcases hmem with ⟨-, rfl⟩ | ⟨rfl, -⟩ | ⟨-, rfl⟩ | ⟨-, rfl⟩ | ⟨-, rfl⟩ | ⟨rfl, -⟩
  case inr.inl => exact absurd (by decide) hname
  case inr.inr.inr.inr.inr => exact absurd (by decide) hname
  all_goals rfl

section Values

variable (w : Surroundings) (now : Instant)

theorem alike_lookUp (path : String) :
    Alike involved (lookUp w path) (lookUp (w.atTime now) path) := by
  unfold lookUp
  refine alike_get_bind fun s _ => ?_
  split
  · exact alike_pure _
  · exact alike_orFail _

theorem alike_finished (negated : Bool) (fs : List Filter) (v : Value) (escapable : Bool) :
    Alike involved (finished negated fs v escapable) (finished negated fs v escapable) := by
  unfold finished
  split
  · exact alike_pure _
  · cases v with
    | string s =>
        refine alike_get_bind fun s _ => ?_
        split <;> exact alike_pure _
    | _ => exact alike_pure _

/-- The parts of an expression, each as two steps that do the same. -/
structure Parts.AreAlike (involved : String → Prop) (p p' : Parts) : Prop where
  plain : Alike involved p.plain p'.plain
  truth : Alike involved p.truth p'.truth
  number : Alike involved p.number p'.number
  default : Alike involved p.default p'.default
  filtered : ∀ v escapable, Alike involved (p.filtered v escapable) (p'.filtered v escapable)

variable {p p' : Parts} (h : p.AreAlike involved p')
include h

theorem Parts.AreAlike.value (rule : TermRule) (negated : Bool) (fs : List Filter) :
    Alike involved (p.value w rule negated fs) (p'.value (w.atTime now) rule negated fs) := by
  -- how a value goes on once it is found
  have hend : ∀ v escapable, Alike involved
      (p.filtered v escapable >>= fun found => finished negated fs found.1 found.2)
      (p'.filtered v escapable >>= fun found => finished negated fs found.1 found.2) :=
    fun v escapable => alike_bind (h.filtered v escapable) fun _ => alike_finished _ _ _ _
  unfold Parts.value
  cases rule with
  | name path =>
      refine alike_bind (alike_outcome (alike_lookUp w now path)) fun found => ?_
      cases found with
      | ok v =>
          cases v with
          | null =>
              dsimp only
              split
              · exact alike_bind h.default fun v => alike_pure_bind (hend v true)
              · exact alike_pure_bind (hend .null true)
          | _ => exact alike_pure_bind (hend _ _)
      | error fault =>
          dsimp only
          split
          · exact alike_bind h.default fun v => alike_pure_bind (hend v true)
          · split
            · exact alike_pure_bind (alike_pure _)
            · exact alike_throw_bind _
  | plain =>
      refine alike_bind (alike_map _ h.plain) fun start => ?_
      cases start with
      | none => exact alike_pure _
      | some found => exact hend found.1 found.2
  | truth => exact alike_bind h.truth fun b => alike_pure_bind (hend _ false)
  | number =>
      refine alike_bind (alike_outcome h.number) fun found => ?_
      cases found with
      | ok n => cases n <;> exact alike_pure_bind (hend _ false)
      | error fault => exact alike_throw_bind _

theorem Parts.AreAlike.holds (t : Term) (negated : Bool) (fs : List Filter) :
    Alike involved (p.holds w t negated fs) (p'.holds (w.atTime now) t negated fs) := by
  unfold Parts.holds
  cases t.rule with
  | name path =>
      refine alike_bind (alike_outcome (h.value w now (.name path) negated fs)) fun found => ?_
      cases found <;> exact alike_pure _
  | number => exact alike_bind h.number fun n => by cases n <;> exact alike_pure _
  | plain | truth =>
      dsimp only
      split
      · refine alike_bind (h.value w now .plain negated fs) fun v => ?_
        cases v with
        | string s => exact alike_pure _
        | _ => exact alike_fail _
      · exact alike_bind h.truth fun b => by cases b <;> exact alike_pure _

theorem Parts.AreAlike.asNumber (rule : TermRule) (negated : Bool) (fs : List Filter) :
    Alike involved (p.asNumber w rule negated fs) (p'.asNumber (w.atTime now) rule negated fs) := by
  unfold Parts.asNumber
  split
  · exact h.number
  · refine alike_bind (h.value w now rule negated fs) fun v => ?_
    cases v with
    | number n => exact alike_pure _
    | _ => exact alike_fail _

end Values

/-! ## Calls at two times -/

section Calls

variable (w : Surroundings) (now : Instant)

theorem alike_findFilter (name : String) :
    Alike involved (findFilter name) (findFilter name) := by
  unfold findFilter
  split
  · exact alike_pure _
  · exact alike_fail _

theorem alike_applyFunction {name : String} (hname : name ∉ clockFunctions)
    {args args' : Run (List (String × Value))} (h : Alike involved args args') :
    Alike involved (applyFunction w name args) (applyFunction (w.atTime now) name args') := by
  unfold applyFunction findFunction
  cases hlookup : Functions.all.lookup name with
  | none => exact alike_throw_bind _
  | some f =>
      refine alike_explained _ (alike_bind h fun values => ?_)
      have hsame : f (w.atTime now).world (Keyed.ofPairs values) =
          f w.world (Keyed.ofPairs values) :=
        apply_eq_of_not_mem_clockFunctions hlookup hname w.world now _
      rw [hsame]
      exact alike_orFail _

theorem alike_applyTest (subject name : String) {args args' : Run (List Value)}
    (h : Alike involved args args') :
    Alike involved (applyTest w subject name args)
      (applyTest (w.atTime now) subject name args') := by
  unfold applyTest findTest
  refine alike_bind ?_ fun t => alike_explained _ (alike_bind h fun values => ?_)
  · split
    · exact alike_pure _
    · exact alike_fail _
  · refine alike_bind (alike_outcome (alike_lookUp w now subject)) fun found => ?_
    cases found <;> exact alike_bind (alike_pure _) fun _ => alike_orFail _

/-- A macro that is found in steady tables is steady. -/
theorem RenderState.IsSteady.of_find {s : RenderState} (hs : s.IsSteady involved)
    {template space name file : String} {m : Macro}
    (h : s.macros.find template space name = .ok (file, m)) :
    involved file ∧ IsSteadyBody involved m.body := by
  unfold MacroTable.find at h
  split at h
  next => cases h
  next known macros hspace =>
    obtain ⟨spaces, hspaces, hknown⟩ := Option.bind_eq_some_iff.mp hspace
    obtain ⟨hinvolved, hmacros⟩ :=
      hs.macros _ (Keyed.mem_of_get? hspaces) _ (Keyed.mem_of_get? hknown)
    split at h
    next found hfound =>
      cases h
      exact ⟨hinvolved, hmacros _ (List.mem_of_find?_eq_some hfound)⟩
    next => cases h

theorem alike_applyMacro {render render' : List Node → Run String}
    (hrender : AreAlikeRenders involved render render') (space name : String)
    {args args' : List String → Run (List (String × Value))}
    (h : ∀ wanted, Alike involved (args wanted) (args' wanted)) :
    Alike involved (applyMacro w render space name args)
      (applyMacro (w.atTime now) render' space name args') := by
  have hcontext : Alike involved (macroContext w) (macroContext (w.atTime now)) := by
    unfold macroContext
    refine alike_get_bind fun s _ => ?_
    cases s.blocks <;> exact alike_pure _
  unfold applyMacro
  refine alike_bind hcontext fun context => alike_get_bind fun s hs => ?_
  refine alike_orFail_bind fun ⟨file, m⟩ hfound => ?_
  obtain ⟨hfile, hbody⟩ := hs.of_find hfound
  refine alike_bind (h _) fun given => alike_bind (alike_orFail _) fun values => ?_
  -- the frame of a macro belongs to the template that the macro is from
  unfold runMacro
  exact alike_framed (hrender m.body hbody) hfile

end Calls

/-! ## Expressions at two times -/

section Expressions

section Answers

variable (involved : String → Prop) (w : Surroundings) (now : Instant)
  (render render' : List Node → Run String)

/-- An expression is evaluated alike at two times, whatever is asked of it. -/
structure Expr.IsAlike (e : Expr) : Prop where
  value : Alike involved (evalExpr w render e) (evalExpr (w.atTime now) render' e)
  truth : Alike involved (truthOf w render e) (truthOf (w.atTime now) render' e)
  number : Alike involved (numberOf w render e) (numberOf (w.atTime now) render' e)

/-- A basic value is evaluated alike at two times, whatever is asked of it. -/
structure Term.IsAlike (t : Term) : Prop where
  value : Alike involved (evalTerm w render t) (evalTerm (w.atTime now) render' t)
  truth : Alike involved (truthOfTerm w render t) (truthOfTerm (w.atTime now) render' t)
  number : Alike involved (numberOfTerm w render t) (numberOfTerm (w.atTime now) render' t)
  part : Alike involved (concatPart w render t) (concatPart (w.atTime now) render' t)

/-- Items are evaluated alike at two times, as values and as arguments. -/
structure AreAlikeItems (items : List Expr) : Prop where
  values : Alike involved (evalItems w render items) (evalItems (w.atTime now) render' items)
  arguments : Alike involved (evalPlainArgs w render items)
    (evalPlainArgs (w.atTime now) render' items)

/-- Named arguments are evaluated alike at two times. -/
structure AreAlikeArgs (args : List (String × Expr)) : Prop where
  all : Alike involved (evalArgs w render args) (evalArgs (w.atTime now) render' args)
  wanted : ∀ names, Alike involved (evalWanted w render args names)
    (evalWanted (w.atTime now) render' args names)
  default : Alike involved (defaultArg w render args) (defaultArg (w.atTime now) render' args)

/-- Filters do the same at two times. -/
structure AreAlikeFilters (fs : List Filter) : Prop where
  applied : ∀ v escapable, Alike involved (applyFilters w render fs v escapable)
    (applyFilters (w.atTime now) render' fs v escapable)
  default : Alike involved (defaultValue w render fs) (defaultValue (w.atTime now) render' fs)

end Answers

variable {w : Surroundings} {now : Instant} {render render' : List Node → Run String}

/-- Two values that are compared. -/
theorem alike_truthOfTerm_logic {op : LogicOp} {l r : Expr}
    (hl : l.IsAlike involved w now render render') (hr : r.IsAlike involved w now render render') :
    Alike involved (truthOfTerm w render (.logic op l r))
      (truthOfTerm (w.atTime now) render' (.logic op l r)) := by
  cases op with
  | conj =>
      simp only [truthOfTerm]
      refine alike_bind hl.truth fun b => ?_
      cases b with
      | true => exact alike_map _ hr.truth
      | false => exact alike_pure _
  | disj =>
      simp only [truthOfTerm]
      refine alike_bind hl.truth fun b => ?_
      cases b with
      | true => exact alike_pure _
      | false => exact alike_map _ hr.truth
  | equal | notEqual =>
      simp only [truthOfTerm]
      exact alike_bind hl.value fun v => alike_bind hr.value fun u => alike_pure _
  | _ =>
      simp only [truthOfTerm]
      refine alike_bind hl.number fun x => alike_bind hr.number fun y => ?_
      cases x with
      | none => exact alike_fail _
      | some x =>
          cases y with
          | none => exact alike_fail _
          | some y => exact alike_pure _

/-! One lemma for each kind of basic value that is made of others: it is evaluated alike if they
are. -/

theorem Term.isAlike_name (path : String) :
    (Term.name path).IsAlike involved w now render render' := by
  refine ⟨?_, ?_, ?_, ?_⟩ <;> simp only [evalTerm, truthOfTerm, numberOfTerm, concatPart]
  · exact alike_fail _
  · exact alike_fail _
  · refine alike_bind (alike_lookUp w now path) fun v => ?_
    cases v with
    | number n => exact alike_pure _
    | _ => exact alike_fail _
  · refine alike_bind (alike_lookUp w now path) fun v => ?_
    split
    · exact alike_pure _
    · exact alike_fail _

theorem Term.isAlike_math {l r : Expr} (op : MathOp)
    (hl : l.IsAlike involved w now render render') (hr : r.IsAlike involved w now render render') :
    (Term.math op l r).IsAlike involved w now render render' := by
  refine ⟨?_, ?_, ?_, ?_⟩ <;> simp only [evalTerm, truthOfTerm, numberOfTerm, concatPart]
  · exact alike_fail _
  · exact alike_fail _
  · refine alike_bind hl.number fun x => alike_bind hr.number fun y => ?_
    split
    · exact alike_orFail _
    · exact alike_pure _
  · exact alike_fail _

theorem Term.isAlike_logic {l r : Expr} (op : LogicOp)
    (hl : l.IsAlike involved w now render render') (hr : r.IsAlike involved w now render render') :
    (Term.logic op l r).IsAlike involved w now render render' := by
  refine ⟨?_, alike_truthOfTerm_logic hl hr, ?_, ?_⟩ <;>
    simp only [evalTerm, numberOfTerm, concatPart] <;> exact alike_fail _

theorem Term.isAlike_member {item container : Expr} (negated : Bool)
    (hitem : item.IsAlike involved w now render render')
    (hcontainer : container.IsAlike involved w now render render') :
    (Term.member negated item container).IsAlike involved w now render render' := by
  -- as a value and as a truth, the answer differs only in how it is given back
  have hisIn : ∀ {β : Type} (g : Bool → β), Alike involved
      (do
        let v ← unescaped (evalExpr w render item)
        let c ← unescaped (evalExpr w render container)
        let b ← orFail (isIn v c)
        pure (g b))
      (do
        let v ← unescaped (evalExpr (w.atTime now) render' item)
        let c ← unescaped (evalExpr (w.atTime now) render' container)
        let b ← orFail (isIn v c)
        pure (g b)) :=
    fun g => alike_bind (alike_unescaped hitem.value) fun v =>
      alike_bind (alike_unescaped hcontainer.value) fun c =>
        alike_bind (alike_orFail _) fun b => alike_pure (g b)
  refine ⟨?_, ?_, ?_, ?_⟩ <;> simp only [evalTerm, truthOfTerm, numberOfTerm, concatPart]
  · exact hisIn _
  · exact hisIn _
  · exact alike_fail _
  · exact alike_fail _

theorem Term.isAlike_test {items : List Expr} (subject : String) (negated : Bool) (name : String)
    (hitems : AreAlikeItems involved w now render render' items) :
    (Term.test subject negated name items).IsAlike involved w now render render' := by
  have htest := alike_applyTest w now subject name hitems.arguments
  refine ⟨?_, ?_, ?_, ?_⟩ <;> simp only [evalTerm, truthOfTerm, numberOfTerm, concatPart]
  · exact alike_bind htest fun b => alike_pure _
  · exact alike_bind htest fun b => alike_pure _
  · exact alike_fail _
  · exact alike_fail _

theorem Term.isAlike_call {name : String} {args : List (String × Expr)}
    (hname : name ∉ clockFunctions) (hargs : AreAlikeArgs involved w now render render' args) :
    (Term.call name args).IsAlike involved w now render render' := by
  have hcall := alike_applyFunction w now hname hargs.all
  refine ⟨?_, ?_, ?_, ?_⟩ <;> simp only [evalTerm, truthOfTerm, numberOfTerm, concatPart]
  · exact alike_bind hcall fun v => alike_pure _
  · refine alike_bind hcall fun v => ?_
    cases v with
    | bool b => exact alike_pure _
    | _ => exact alike_fail _
  · refine alike_bind hcall fun v => ?_
    cases v with
    | number n => exact alike_pure _
    | _ => exact alike_fail _
  · refine alike_bind hcall fun v => ?_
    split
    · exact alike_pure _
    · exact alike_fail _

theorem Term.isAlike_macroCall {args : List (String × Expr)}
    (hrender : AreAlikeRenders involved render render') (space name : String)
    (hargs : AreAlikeArgs involved w now render render' args) :
    (Term.macroCall space name args).IsAlike involved w now render render' := by
  have hcall := alike_applyMacro w now hrender space name hargs.wanted
  refine ⟨?_, ?_, ?_, ?_⟩ <;> simp only [evalTerm, truthOfTerm, numberOfTerm, concatPart]
  · exact alike_bind hcall fun s => alike_pure _
  · exact alike_bind hcall fun s => alike_pure _
  · exact alike_fail _
  · exact alike_fail _

mutual

theorem Expr.isAlike (hrender : AreAlikeRenders involved render render') (e : Expr)
    (he : e.calls.Disjoint clockFunctions) : e.IsAlike involved w now render render' := by
  obtain ⟨t, negated, fs⟩ := e
  obtain ⟨ht, hfs⟩ := List.disjoint_append_left.mp he
  have hterm := Term.isAlike hrender t ht
  have hfilters := areAlike_filters hrender fs hfs
  have hparts : Parts.AreAlike involved
      ⟨evalTerm w render t, truthOfTerm w render t, numberOfTerm w render t,
        defaultValue w render fs, applyFilters w render fs⟩
      ⟨evalTerm (w.atTime now) render' t, truthOfTerm (w.atTime now) render' t,
        numberOfTerm (w.atTime now) render' t, defaultValue (w.atTime now) render' fs,
        applyFilters (w.atTime now) render' fs⟩ :=
    ⟨hterm.value, hterm.truth, hterm.number, hfilters.default, hfilters.applied⟩
  refine ⟨?_, ?_, ?_⟩
  · simp only [evalExpr]
    exact hparts.value w now t.rule negated fs
  · simp only [truthOf]
    exact hparts.holds w now t negated fs
  · simp only [numberOf]
    exact hparts.asNumber w now t.rule negated fs

theorem Term.isAlike (hrender : AreAlikeRenders involved render render') (t : Term)
    (ht : t.calls.Disjoint clockFunctions) : t.IsAlike involved w now render render' := by
  cases t with
  | text s =>
      refine ⟨?_, ?_, ?_, ?_⟩ <;> simp only [evalTerm, truthOfTerm, numberOfTerm, concatPart]
      · exact alike_pure _
      · exact alike_pure _
      · exact alike_fail _
      · exact alike_pure _
  | bool b =>
      refine ⟨?_, ?_, ?_, ?_⟩ <;> simp only [evalTerm, truthOfTerm, numberOfTerm, concatPart]
      · exact alike_pure _
      · exact alike_pure _
      · exact alike_fail _
      · exact alike_fail _
  | int n | float n =>
      refine ⟨?_, ?_, ?_, ?_⟩ <;> simp only [evalTerm, truthOfTerm, numberOfTerm, concatPart]
      · exact alike_fail _
      · exact alike_fail _
      · exact alike_pure _
      · exact alike_pure _
  | name path => exact Term.isAlike_name path
  | math op l r =>
      obtain ⟨hl, hr⟩ := List.disjoint_append_left.mp ht
      exact Term.isAlike_math op (Expr.isAlike hrender l hl) (Expr.isAlike hrender r hr)
  | logic op l r =>
      obtain ⟨hl, hr⟩ := List.disjoint_append_left.mp ht
      exact Term.isAlike_logic op (Expr.isAlike hrender l hl) (Expr.isAlike hrender r hr)
  | member negated item container =>
      obtain ⟨hitem, hcontainer⟩ := List.disjoint_append_left.mp ht
      exact Term.isAlike_member negated (Expr.isAlike hrender item hitem)
        (Expr.isAlike hrender container hcontainer)
  | test subject negated name items =>
      exact Term.isAlike_test subject negated name (areAlike_items hrender items ht)
  | call name args =>
      obtain ⟨hname, hargs⟩ := List.disjoint_cons_left.mp ht
      exact Term.isAlike_call hname (areAlike_args hrender args hargs)
  | macroCall space name args =>
      exact Term.isAlike_macroCall hrender space name (areAlike_args hrender args ht)
  | array items =>
      refine ⟨?_, ?_, ?_, ?_⟩ <;> simp only [evalTerm, truthOfTerm, numberOfTerm, concatPart]
      · exact alike_bind (areAlike_items hrender items ht).values fun vs => alike_pure _
      · exact alike_pure _
      · exact alike_fail _
      · exact alike_fail _
  | concat parts =>
      refine ⟨?_, ?_, ?_, ?_⟩ <;> simp only [evalTerm, truthOfTerm, numberOfTerm, concatPart]
      · exact alike_bind (alike_concatFrom hrender parts ht "" false) fun _ => alike_pure _
      · exact alike_fail _
      · exact alike_fail _
      · exact alike_fail _

theorem areAlike_items (hrender : AreAlikeRenders involved render render') (items : List Expr)
    (h : (callsOfItems items).Disjoint clockFunctions) :
    AreAlikeItems involved w now render render' items := by
  cases items with
  | nil => exact ⟨by simp only [evalItems]; exact alike_pure _,
      by simp only [evalPlainArgs]; exact alike_pure _⟩
  | cons e es =>
      obtain ⟨he, hes⟩ := List.disjoint_append_left.mp h
      have hfirst := Expr.isAlike hrender e he
      have hrest := areAlike_items hrender es hes
      refine ⟨?_, ?_⟩ <;> simp only [evalItems, evalPlainArgs]
      · exact alike_bind hfirst.value fun v => alike_bind hrest.values fun vs => alike_pure _
      · exact alike_bind (alike_unescaped hfirst.value) fun v =>
          alike_bind hrest.arguments fun vs => alike_pure _

theorem areAlike_args (hrender : AreAlikeRenders involved render render')
    (args : List (String × Expr)) (h : (callsOfArgs args).Disjoint clockFunctions) :
    AreAlikeArgs involved w now render render' args := by
  cases args with
  | nil =>
      refine ⟨?_, fun names => ?_, ?_⟩ <;> simp only [evalArgs, evalWanted, defaultArg]
      · exact alike_pure _
      · exact alike_pure _
      · exact alike_fail _
  | cons arg rest =>
      obtain ⟨key, e⟩ := arg
      obtain ⟨he, hes⟩ := List.disjoint_append_left.mp h
      have hfirst := Expr.isAlike hrender e he
      have hrest := areAlike_args hrender rest hes
      refine ⟨?_, fun names => ?_, ?_⟩ <;> simp only [evalArgs, evalWanted, defaultArg]
      · exact alike_bind (alike_unescaped hfirst.value) fun v =>
          alike_bind hrest.all fun vs => alike_pure _
      · split
        · exact alike_bind (alike_unescaped hfirst.value) fun v =>
            alike_bind (hrest.wanted names) fun vs => alike_pure _
        · exact hrest.wanted names
      · split
        · exact hfirst.value
        · exact hrest.default

theorem alike_concatFrom (hrender : AreAlikeRenders involved render render')
    (parts : List Term) (h : (callsOfParts parts).Disjoint clockFunctions) (s : String)
    (escapable : Bool) : Alike involved (concatFrom w render parts s escapable)
      (concatFrom (w.atTime now) render' parts s escapable) := by
  cases parts with
  | nil =>
      simp only [concatFrom]
      exact alike_pure _
  | cons t ts =>
      obtain ⟨ht, hts⟩ := List.disjoint_append_left.mp h
      simp only [concatFrom]
      exact alike_bind (Term.isAlike hrender t ht).part fun _ => alike_concatFrom hrender ts hts _ _

theorem areAlike_filters (hrender : AreAlikeRenders involved render render')
    (fs : List Filter) (h : (callsOfFilters fs).Disjoint clockFunctions) :
    AreAlikeFilters involved w now render render' fs := by
  cases fs with
  | nil =>
      refine ⟨fun v escapable => ?_, ?_⟩ <;> simp only [applyFilters, defaultValue]
      · exact alike_pure _
      · exact alike_fail _
  | cons f fs =>
      obtain ⟨name, args⟩ := f
      obtain ⟨hargs, hfs⟩ := List.disjoint_append_left.mp h
      have hvalues := areAlike_args hrender args hargs
      have hrest := areAlike_filters hrender fs hfs
      refine ⟨fun v escapable => ?_, ?_⟩ <;> simp only [applyFilters, defaultValue]
      · split
        · exact hrest.applied v escapable
        · refine alike_bind (alike_findFilter name) fun f => ?_
          refine alike_bind (alike_explained _ ?_) fun v => hrest.applied v true
          exact alike_bind hvalues.all fun values => alike_orFail _
      · exact hvalues.default

end

end Expressions

/-! ## Nodes at two times -/

section Nodes

theorem alike_topIs (q : Frame → Bool) : Alike involved (topIs q) (topIs q) := by
  unfold topIs
  exact alike_get_bind fun s _ => alike_pure _

theorem alike_changeTop {g : Frame → Frame} (h : ∀ f, (g f).template = f.template) :
    Alike involved (changeTop g) (changeTop g) := by
  unfold changeTop
  refine alike_modify_of_templates (fun s => ?_) fun _ => rfl
  cases hframes : s.frames with
  | nil => rfl
  | cons f rest => simp [h]

theorem alike_assign (key : String) (isGlobal : Bool) (v : Value) :
    Alike involved (assign key isGlobal v) (assign key isGlobal v) := by
  have hbelow : ∀ fs : List Frame,
      (assignBelowLoops key v fs).map Frame.template = fs.map Frame.template := by
    intro fs
    induction fs with
    | nil => rfl
    | cons f rest ih =>
        rw [assignBelowLoops]
        split
        · rw [List.map_cons, List.map_cons, ih]
        · rfl
  unfold assign
  cases isGlobal with
  | true => exact alike_modify_of_templates (fun s => hbelow s.frames) fun _ => rfl
  | false =>
      refine alike_modify_of_templates (fun s => ?_) fun _ => rfl
      cases hframes : s.frames <;> rfl

theorem alike_interrupt (status : LoopStatus) (word : String) :
    Alike involved (interrupt status word) (interrupt status word) := by
  unfold interrupt
  refine alike_bind (alike_topIs _) fun inLoop => ?_
  split
  · exact alike_changeTop fun _ => rfl
  · exact alike_fail _

/-- The rounds of a loop whose body does the same. -/
theorem alike_rounds {body body' : Run String} (h : Alike involved body body') (n : Nat)
    (text : String) : Alike involved (rounds body n text) (rounds body' n text) := by
  induction n generalizing text with
  | zero => exact alike_pure text
  | succ n ih =>
      simp only [rounds]
      refine alike_bind h fun part => alike_bind (alike_topIs _) fun isLeft => ?_
      split
      · exact alike_pure _
      · exact alike_bind (alike_changeTop fun _ => rfl) fun _ => ih _

theorem RenderState.IsSteady.activeTemplate {s : RenderState} (h : s.IsSteady involved) :
    involved s.activeTemplate := by
  unfold RenderState.activeTemplate
  split
  next f _ hframes => exact h.frames f (hframes ▸ List.mem_cons_self)
  next hframes => exact absurd hframes h.nonempty

theorem alike_runLoop (key : Option String) (value : String) (items : List (String × Value))
    {body body' emptyBody emptyBody' : Run String} (h : Alike involved body body')
    (hempty : Alike involved emptyBody emptyBody') :
    Alike involved (runLoop key value items body emptyBody)
      (runLoop key value items body' emptyBody') := by
  unfold runLoop
  split
  · exact hempty
  · exact alike_get_bind fun s hs => alike_framed (alike_rounds h items.length "") hs.activeTemplate

section Templates

variable {lib : Library} (h : lib.IsSteady involved)
include h

theorem Library.IsSteady.lineage {template : String} (htemplate : involved template) :
    ∀ name ∈ lineage lib template, involved name := by
  intro name hname
  rcases List.mem_cons.mp hname with rfl | hname
  · exact htemplate
  · cases hd : Keyed.get? template lib with
    | none => simp [hd] at hname
    | some d =>
        have hancestry : name ∈ lib.ancestry d := by simpa [hd] using hname
        exact h.closed htemplate hd (by simp [references, hancestry])

/-- The nearest definition of a block along templates that are involved is steady. -/
theorem Library.IsSteady.nearestBlock {name : String} {level : Nat} {templates : List String}
    (htemplates : ∀ t ∈ templates, involved t) {found : String × Nat × List Node}
    (hfound : nearestBlock? lib name level templates = some found) :
    IsSteadyBody involved found.2.2 := by
  induction templates generalizing level with
  | nil => cases hfound
  | cons template rest ih =>
      rw [nearestBlock?] at hfound
      split at hfound
      next body hbody =>
        obtain ⟨d, hd, hblock⟩ := Option.bind_eq_some_iff.mp hbody
        cases hfound
        exact (h.body (htemplates template List.mem_cons_self) hd).of_block hblock
      next => exact ih (fun t ht => htemplates t (List.mem_cons_of_mem _ ht)) hfound

end Templates

variable {w : Surroundings} {now : Instant} {render render' : List Node → Run String}

theorem alike_renderBlock (hlib : w.library.IsSteady involved)
    (hrender : AreAlikeRenders involved render render') (name : String) {own own' : Run String}
    (hown : Alike involved own own') :
    Alike involved (renderBlock w render name own)
      (renderBlock (w.atTime now) render' name own') := by
  unfold renderBlock
  refine alike_get_bind fun s hs => ?_
  have hlineage := hlib.lineage hs.activeTemplate
  simp only [Surroundings.atTime_library]
  cases hfound : nearestBlock? w.library name 0 (lineage w.library s.activeTemplate) with
  | none => exact hown
  | some found =>
      obtain ⟨file, level, body⟩ := found
      exact alike_bind (alike_modify_of_templates (fun _ => rfl) fun _ => rfl) fun _ =>
        hrender body (hlib.nearestBlock hlineage hfound)

theorem alike_renderParentBlock (hlib : w.library.IsSteady involved)
    (hparents : ∀ parent ∈ w.parents, involved parent)
    (hrender : AreAlikeRenders involved render render') :
    Alike involved (renderParentBlock w render) (renderParentBlock (w.atTime now) render') := by
  unfold renderParentBlock
  refine alike_get_bind fun s _ => ?_
  cases s.blocks with
  | nil => exact alike_fail _
  | cons b rest =>
      have habove : ∀ t ∈ w.parents.drop b.level, involved t := fun t ht =>
        hparents t (List.mem_of_mem_drop ht)
      simp only [Surroundings.atTime_library, Surroundings.atTime_parents]
      cases hfound : nearestBlock? w.library b.name (b.level + 1) (w.parents.drop b.level) with
      | none => exact alike_fail _
      | some found =>
          obtain ⟨file, level, body⟩ := found
          refine alike_bind (alike_modify_of_templates (fun _ => rfl) fun _ => rfl) fun _ => ?_
          refine alike_bind (hrender body (hlib.nearestBlock habove hfound)) fun text => ?_
          refine alike_bind (alike_modify_of_templates (fun _ => rfl) fun _ => rfl) fun _ => ?_
          show Alike involved (ite (w.parents.length ≤ level) _ _)
            (ite (w.parents.length ≤ level) _ _)
          split
          · exact alike_bind (alike_modify_of_templates (fun _ => rfl) fun _ => rfl) fun _ =>
              alike_pure text
          · exact alike_pure text

theorem alike_includeTemplate (hlib : w.library.IsSteady involved)
    (hrender : AreAlikeRenders involved render render') {names : List String}
    (hnames : ∀ name ∈ names, involved name) (lenient : Bool) :
    Alike involved (includeTemplate w render names lenient)
      (includeTemplate (w.atTime now) render' names lenient) := by
  unfold includeTemplate
  simp only [Surroundings.atTime_library]
  cases hfound : firstKnown? w.library names with
  | none =>
      dsimp only
      split
      · exact alike_pure _
      · exact alike_fail _
  | some d =>
      obtain ⟨name, hname, hd⟩ := List.exists_of_findSome?_eq_some hfound
      have hinvolved := hnames name hname
      refine alike_bind (alike_modify fun s hs => ⟨⟨hs.nonempty, hs.frames, ?_⟩, Nat.le_refl _⟩)
        fun _ => ?_
      · exact hlib.addMacros _ hinvolved hd hs.macros
      · exact alike_framed (hrender d.nodes (hlib.body hinvolved hd))
          (hlib.closed hinvolved hd (by simp [Library.references]))

mutual

/-- A steady node is rendered alike at two times, if the nodes within it are steady too. -/
theorem alike_renderNode (hlib : w.library.IsSteady involved)
    (hparents : ∀ parent ∈ w.parents, involved parent)
    (hrender : AreAlikeRenders involved render render') (n : Node) (hn : n.IsSteady involved)
    (hinner : ∀ m ∈ n.inner, m.IsSteady involved) :
    Alike involved (renderNode w render n) (renderNode (w.atTime now) render' n) := by
  cases n with
  | text s =>
      simp only [renderNode]
      exact alike_pure _
  | print e =>
      simp only [renderNode]
      exact alike_map _ (Expr.isAlike hrender e hn.calls).value
  | assign key isGlobal e =>
      simp only [renderNode]
      exact alike_bind (alike_unescaped (Expr.isAlike hrender e hn.calls).value) fun v =>
        alike_bind (alike_assign key isGlobal v) fun _ => alike_pure _
  | filtered f body =>
      simp only [renderNode]
      have hbody := alike_renderNodes hlib hparents hrender body hinner ""
      refine alike_bind hbody fun text => ?_
      split
      · exact alike_pure text
      · refine alike_bind ?_ fun filter => alike_map _ (alike_explained _ ?_)
        · exact alike_findFilter _
        · exact alike_bind (areAlike_args hrender f.args hn.calls).all fun values => alike_orFail _
  | branch cases otherwise =>
      obtain ⟨hcases, hotherwise⟩ := List.forall_mem_append.mp hinner
      have htests : ∀ c ∈ cases, c.1.calls.Disjoint clockFunctions := fun c hc f hf =>
        hn.calls (List.mem_flatMap.mpr ⟨c, hc, hf⟩)
      simp only [renderNode]
      have hfound := alike_renderCases hlib hparents hrender cases htests hcases
      refine alike_bind hfound fun found => ?_
      cases found with
      | some text => exact alike_pure text
      | none => exact alike_renderOptional hlib hparents hrender otherwise hotherwise
  | loop key value container body emptyBody =>
      obtain ⟨hbody, hempty⟩ := List.forall_mem_append.mp hinner
      simp only [renderNode]
      refine alike_bind (alike_orFail _) fun name => ?_
      have hcontainer : container.IsAlike involved w now render render' :=
        Expr.isAlike hrender container hn.calls
      refine alike_bind (alike_unescaped hcontainer.value) fun v => ?_
      refine alike_bind (alike_orFail _) fun items => ?_
      exact alike_runLoop key value items (alike_renderNodes hlib hparents hrender body hbody "")
        (alike_renderOptional hlib hparents hrender emptyBody hempty)
  | leave | skip =>
      simp only [renderNode]
      exact alike_bind (alike_interrupt _ _) fun _ => alike_pure _
  | block name body =>
      simp only [renderNode]
      exact alike_renderBlock hlib hrender name
        (alike_renderNodes hlib hparents hrender body hinner "")
  | parentBlock =>
      simp only [renderNode]
      exact alike_renderParentBlock hlib hparents hrender
  | inclusion names lenient =>
      simp only [renderNode]
      exact alike_includeTemplate hlib hrender hn.inclusions lenient
  | inheritance parent =>
      simp only [renderNode]
      exact alike_fail _
  | importMacros file space | macroDef name params body =>
      simp only [renderNode]
      exact alike_pure _

theorem alike_renderNodes (hlib : w.library.IsSteady involved)
    (hparents : ∀ parent ∈ w.parents, involved parent)
    (hrender : AreAlikeRenders involved render render') (ns : List Node)
    (hns : IsSteadyBody involved ns) (text : String) :
    Alike involved (renderNodes w render ns text) (renderNodes (w.atTime now) render' ns text) := by
  cases ns with
  | nil =>
      simp only [renderNodes]
      exact alike_pure text
  | cons n ns =>
      simp only [renderNodes]
      refine alike_bind (alike_renderNode hlib hparents hrender n hns.head hns.inner) fun part => ?_
      refine alike_bind (alike_topIs _) fun interrupted => ?_
      split
      · exact alike_pure _
      · exact alike_renderNodes hlib hparents hrender ns hns.tail _

theorem alike_renderCases (hlib : w.library.IsSteady involved)
    (hparents : ∀ parent ∈ w.parents, involved parent)
    (hrender : AreAlikeRenders involved render render') (cases : List (Expr × List Node))
    (htests : ∀ c ∈ cases, c.1.calls.Disjoint clockFunctions)
    (hcases : ∀ m ∈ nestedInCases cases, m.IsSteady involved) :
    Alike involved (renderCases w render cases) (renderCases (w.atTime now) render' cases) := by
  cases cases with
  | nil =>
      simp only [renderCases]
      exact alike_pure _
  | cons first rest =>
      obtain ⟨e, body⟩ := first
      obtain ⟨hbody, hrest⟩ := List.forall_mem_append.mp hcases
      have htest := htests _ List.mem_cons_self
      simp only [renderCases]
      refine alike_bind (Expr.isAlike hrender e htest).truth fun holds => ?_
      split
      · exact alike_map _ (alike_renderNodes hlib hparents hrender body hbody "")
      · exact alike_renderCases hlib hparents hrender rest
          (fun c hc => htests c (List.mem_cons_of_mem _ hc)) hrest

theorem alike_renderOptional (hlib : w.library.IsSteady involved)
    (hparents : ∀ parent ∈ w.parents, involved parent)
    (hrender : AreAlikeRenders involved render render') (body : Option (List Node))
    (hbody : ∀ m ∈ nestedInOptional body, m.IsSteady involved) :
    Alike involved (renderOptional w render body) (renderOptional (w.atTime now) render' body) := by
  cases body with
  | none =>
      simp only [renderOptional]
      exact alike_pure _
  | some ns =>
      simp only [renderOptional]
      exact alike_renderNodes hlib hparents hrender ns hbody ""

end

end Nodes

/-! ## Whole renderings -/

/-- Bodies are rendered alike at two times, however deep they may lie in each other. -/
theorem areAlikeRenders_renderBody {w : Surroundings} (now : Instant)
    (hlib : w.library.IsSteady involved) (hparents : ∀ parent ∈ w.parents, involved parent)
    (bound : Nat) :
    AreAlikeRenders involved (renderBody w bound) (renderBody (w.atTime now) bound) := by
  induction bound with
  | zero => exact fun body _ => alike_fail _
  | succ n ih =>
      intro body hbody
      rw [renderBody, renderBody]
      exact alike_renderNodes hlib hparents ih body hbody ""

theorem alike_renderTop {w : Surroundings} (now : Instant) (hlib : w.library.IsSteady involved)
    (hparents : ∀ parent ∈ w.parents, involved parent) {ns : List Node}
    (hns : IsSteadyBody involved ns) (text : String) :
    Alike involved (renderTop w ns text) (renderTop (w.atTime now) ns text) := by
  induction ns generalizing text with
  | nil => exact alike_pure text
  | cons n ns ih =>
      have hbodies := areAlikeRenders_renderBody now hlib hparents nestingLimit
      have hnode : Alike involved (renderNode w (renderBody w nestingLimit) n)
          (renderNode (w.atTime now) (renderBody (w.atTime now) nestingLimit) n) :=
        alike_renderNode hlib hparents hbodies n hns.head hns.inner
      simp only [renderTop]
      refine alike_bind (alike_outcome hnode) fun found => ?_
      cases found with
      | ok part => exact ih hns.tail _
      | error causes => exact alike_get_bind fun s _ => alike_throw _

/-- If no template involved calls a function of the clock, a rendering does not depend on the
time. -/
theorem Library.IsClockFree.render_eq {lib : Library} {name : String} (h : lib.IsClockFree name)
    (world : Functions.World) (now : Instant) (given : Keyed Value) :
    lib.render ⟨now, world.environment⟩ given name = lib.render world given name := by
  have hlib := h.isSteady
  have hname : lib.Involves name name := .itself
  unfold Library.render
  cases hd : Keyed.get? name lib with
  | none => rfl
  | some d =>
      have hparents : ∀ parent ∈ lib.ancestry d, lib.Involves name parent := fun parent hp =>
        hname.reference hd (by simp [references, hp])
      -- the nodes rendered are those of the last template up the line of inheritance
      have hroot : IsSteadyBody (lib.Involves name)
          (((lib.ancestry d).getLast?.bind fun r => Keyed.get? r lib).getD d).nodes := by
        cases hlast : (lib.ancestry d).getLast?.bind fun r => Keyed.get? r lib with
        | none => exact hlib.body hname hd
        | some root =>
            obtain ⟨r, hr, hroot⟩ := Option.bind_eq_some_iff.mp hlast
            exact hlib.body (hparents r (List.mem_of_getLast? hr)) hroot
      have hstart : RenderState.IsSteady (lib.Involves name)
          ⟨[⟨.origin, name, [], none⟩], [], lib.addMacros lib.importBound d [], isMarkup name⟩ := by
        refine ⟨List.cons_ne_nil _ _, fun f hf => ?_, ?_⟩
        · obtain rfl := List.mem_singleton.mp hf
          exact hname
        · exact hlib.addMacros _ hname hd fun p hp => nomatch hp
      obtain ⟨hsame, -⟩ := alike_renderTop now (w := ⟨lib, given, name, _, lib.ancestry d, world⟩)
        hlib hparents hroot "" _ hstart
      exact congrArg Prod.fst hsame.symm

/-- A template that asks for the time tells it. -/
example : Library.render [("date", ⟨"date", [.print (.ofTerm (.call "now" []))]⟩)] ⟨⟨0, 0⟩, []⟩ []
    "date" matches .ok "1970-01-01T00:00:00+00:00" := by
  decide +kernel

namespace Engine

/-- The names under which the engine adds the date. -/
def dateNames : List String := ["current_date", "current_year", "generated_at"]

/-- Values that have all names of the date stay as they are. -/
theorem withDateConstants_eq_self {given : Keyed Value}
    (h : ∀ key ∈ dateNames, Keyed.contains key given = true) (now : Instant) :
    withDateConstants now given = given := by
  have hdate := h "current_date" (by decide)
  have hyear := h "current_year" (by decide)
  have hinstant := h "generated_at" (by decide)
  simp [withDateConstants, dateConstants, inherit, hdate, hyear, hinstant]

/-- A model with all names of the date renders alike in two worlds with one environment, if no
template involved calls a function of the clock. -/
theorem render_eq_of_isClockFree {e : Engine} {name : String} {model : Value} {given : Keyed Value}
    (hmodel : model.normalized = .object given)
    (hdate : ∀ key ∈ dateNames, Keyed.contains key given = true)
    (hfree : e.library.IsClockFree name) {world other : Functions.World}
    (henvironment : world.environment = other.environment) :
    e.render world name model = e.render other name model := by
  have hrender : e.library.render other given name = e.library.render world given name := by
    have htime := hfree.render_eq world other.now given
    rwa [show (⟨other.now, world.environment⟩ : Functions.World) = other by rw [henvironment]]
      at htime
  unfold render
  simp only [hmodel, withDateConstants_eq_self hdate, hrender]

end Engine

end FormScaffold.Template

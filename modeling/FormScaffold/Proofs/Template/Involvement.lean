import FormScaffold.Proofs.Record.KeyedOrder
import FormScaffold.Template.Rendering

/-!
# Templates involved in a rendering

Rendering a template reaches others: those it inherits from, those it includes, and those whose
macros it imports.  A part of a template is steady if it calls no function of the clock and includes
nothing but templates that are involved.  When all templates involved are free of calls of the
clock, their blocks are steady, and so are all macros that a rendering comes to know.
-/

namespace FormScaffold

/-- What a map inherits stood in it or in the others. -/
theorem Keyed.mem_inherit {α : Type} {others m : Keyed α} {p : String × α}
    (h : p ∈ Template.inherit others m) : p ∈ m ∨ p ∈ others := by
  unfold Template.inherit at h
  induction others generalizing m with
  | nil => exact Or.inl h
  | cons q rest ih =>
      rw [List.foldl_cons] at h
      rcases ih h with hp | hp
      · split at hp
        · exact Or.inl hp
        · rcases mem_insert hp with rfl | hp
          · exact Or.inr List.mem_cons_self
          · exact Or.inl hp
      · exact Or.inr (List.mem_cons_of_mem _ hp)

namespace Template

open FormScaffold

/-! ## What templates call -/

mutual

/-- The functions that a basic value calls. -/
def Term.calls : Term → List String
  | .math _ l r | .logic _ l r => l.calls ++ r.calls
  | .member _ item container => item.calls ++ container.calls
  | .test _ _ _ items | .array items => callsOfItems items
  | .call name args => name :: callsOfArgs args
  | .macroCall _ _ args => callsOfArgs args
  | .concat parts => callsOfParts parts
  | .text _ | .int _ | .float _ | .bool _ | .name _ => []

/-- The functions that an expression calls. -/
def Expr.calls : Expr → List String
  | .mk t _ fs => t.calls ++ callsOfFilters fs

/-- The functions called in some expressions. -/
def callsOfItems : List Expr → List String
  | [] => []
  | e :: es => e.calls ++ callsOfItems es

/-- The functions called in named arguments. -/
def callsOfArgs : List (String × Expr) → List String
  | [] => []
  | (_, e) :: rest => e.calls ++ callsOfArgs rest

/-- The functions called in the parts of a concatenation. -/
def callsOfParts : List Term → List String
  | [] => []
  | t :: ts => t.calls ++ callsOfParts ts

/-- The functions called in the arguments of filters. -/
def callsOfFilters : List Filter → List String
  | [] => []
  | .mk _ args :: fs => callsOfArgs args ++ callsOfFilters fs

end

mutual

/-- The nodes within a node. -/
def Node.inner : Node → List Node
  | .filtered _ body | .block _ body | .macroDef _ _ body => nested body
  | .branch cases otherwise => nestedInCases cases ++ nestedInOptional otherwise
  | .loop _ _ _ body emptyBody => nested body ++ nestedInOptional emptyBody
  | _ => []

/-- The nodes of a body and those within them. -/
def nested : List Node → List Node
  | [] => []
  | n :: ns => n :: (n.inner ++ nested ns)

/-- The nodes within the cases of a branch. -/
def nestedInCases : List (Expr × List Node) → List Node
  | [] => []
  | (_, body) :: rest => nested body ++ nestedInCases rest

/-- The nodes within a body that may be missing. -/
def nestedInOptional : Option (List Node) → List Node
  | none => []
  | some body => nested body

end

/-- The functions that a node itself calls. -/
def Node.calls : Node → List String
  | .print e | .assign _ _ e | .loop _ _ e _ _ => e.calls
  | .filtered f _ => callsOfArgs f.args
  | .branch cases _ => cases.flatMap fun c => c.1.calls
  | _ => []

/-- The templates of which a node includes the first that there is. -/
def Node.inclusions : Node → List String
  | .inclusion names _ => names
  | _ => []

namespace Definition

/-- The functions called anywhere in a template. -/
def calls (d : Definition) : List String := (nested d.nodes).flatMap Node.calls

/-- The templates that may be included anywhere in a template. -/
def inclusions (d : Definition) : List String := (nested d.nodes).flatMap Node.inclusions

end Definition

namespace Library

/-- The names by which a template refers to templates: its own, those it inherits from, those it
includes, and those of the files whose macros it imports. -/
def references (lib : Library) (d : Definition) : List String :=
  d.name :: (lib.ancestry d ++ d.inclusions ++ d.imports.map Prod.fst)

/-- A template is involved in the rendering of one that refers to it, perhaps through others. -/
inductive Involves (lib : Library) (start : String) : String → Prop
  | itself : Involves lib start start
  | reference {name other : String} {d : Definition} (h : Involves lib start name)
      (hd : Keyed.get? name lib = some d) (hother : other ∈ lib.references d) :
      Involves lib start other

end Library

/-- The functions whose values depend on when they are called. -/
def clockFunctions : List String := ["now", "current_date", "get_random"]

/-- No template involved in the rendering of one calls a function of the clock. -/
def Library.IsClockFree (lib : Library) (name : String) : Prop :=
  ∀ other d, lib.Involves name other → Keyed.get? other lib = some d →
    d.calls.Disjoint clockFunctions

/-- Some templates refer to none but themselves, and call no function of the clock. -/
def Library.areClockFree (lib : Library) (names : List String) : Bool :=
  names.all fun name =>
    match Keyed.get? name lib with
    | some d => (lib.references d).all names.contains && d.calls.all fun f =>
        !clockFunctions.contains f
    | none => true

theorem Library.isClockFree_of_areClockFree {lib : Library} {names : List String}
    (h : lib.areClockFree names = true) {name : String} (hname : name ∈ names) :
    lib.IsClockFree name := by
  have hall : ∀ other ∈ names, ∀ d, Keyed.get? other lib = some d →
      (∀ u ∈ lib.references d, u ∈ names) ∧ ∀ f ∈ d.calls, f ∉ clockFunctions := by
    intro other hother d hd
    have hone := List.all_eq_true.mp h other hother
    simp only [hd, Bool.and_eq_true] at hone
    exact ⟨fun u hu => by simpa using List.all_eq_true.mp hone.1 u hu,
      fun f hf => by simpa using List.all_eq_true.mp hone.2 f hf⟩
  -- no reference leads out of the list
  have hinvolved : ∀ other, lib.Involves name other → other ∈ names := by
    intro other hother
    induction hother with
    | itself => exact hname
    | reference _ hd href ih => exact (hall _ ih _ hd).1 _ href
  intro other d hother hd
  exact fun f hf => (hall other (hinvolved other hother) d hd).2 f hf

/-! ## Steady parts -/

section Steady

variable (involved : String → Prop)

/-- A node calls no function of the clock, and includes nothing but templates that are involved. -/
structure Node.IsSteady (n : Node) : Prop where
  calls : n.calls.Disjoint clockFunctions
  inclusions : ∀ name ∈ n.inclusions, involved name

/-- All nodes of a body are steady. -/
def IsSteadyBody (body : List Node) : Prop := ∀ n ∈ nested body, n.IsSteady involved

/-- Macros by name of import come from templates that are involved, and are steady. -/
def AreSteadyMacros (spaces : Keyed (String × List Macro)) : Prop :=
  ∀ p ∈ spaces, involved p.2.1 ∧ ∀ m ∈ p.2.2, IsSteadyBody involved m.body

/-- All macros of a table are steady. -/
def IsSteadyTable (table : MacroTable) : Prop := ∀ p ∈ table, AreSteadyMacros involved p.2

/-- A state in which nothing depends on the clock: at least one frame is open, the frames belong to
templates that are involved, and all macros are steady. -/
structure RenderState.IsSteady (s : RenderState) : Prop where
  nonempty : s.frames ≠ []
  frames : ∀ f ∈ s.frames, involved f.template
  macros : IsSteadyTable involved s.macros

/-- The templates that are involved are steady, and refer to no others. -/
structure Library.IsSteady (lib : Library) : Prop where
  body : ∀ {name d}, involved name → Keyed.get? name lib = some d → IsSteadyBody involved d.nodes
  closed : ∀ {name other d}, involved name → Keyed.get? name lib = some d →
    other ∈ lib.references d → involved other

end Steady

variable {involved : String → Prop}

/-- Without calls of the clock, the templates involved in a rendering are steady. -/
theorem Library.IsClockFree.isSteady {lib : Library} {name : String} (h : lib.IsClockFree name) :
    lib.IsSteady (lib.Involves name) where
  body := by
    intro other d hother hd n hn
    refine ⟨?_, fun t ht => ?_⟩
    · intro f hf
      exact h other d hother hd (List.mem_flatMap.mpr ⟨n, hn, hf⟩)
    · refine hother.reference hd ?_
      have hmem : t ∈ d.inclusions := List.mem_flatMap.mpr ⟨n, hn, ht⟩
      simp [references, hmem]
  closed := fun hother hd href => hother.reference hd href

namespace IsSteadyBody

theorem head {n : Node} {ns : List Node} (h : IsSteadyBody involved (n :: ns)) :
    n.IsSteady involved :=
  h n (by simp [nested])

theorem tail {n : Node} {ns : List Node} (h : IsSteadyBody involved (n :: ns)) :
    IsSteadyBody involved ns :=
  fun m hm => h m (by simp [nested, hm])

/-- What is true of the nodes within the first node. -/
theorem inner {n : Node} {ns : List Node} (h : IsSteadyBody involved (n :: ns)) :
    ∀ m ∈ n.inner, m.IsSteady involved :=
  fun m hm => h m (by simp [nested, hm])

end IsSteadyBody

mutual

/-- The nodes of a block lie within the node that defines it. -/
theorem nested_subset_of_mem_blocks (n : Node) {name : String} {body : List Node}
    (h : (name, body) ∈ n.blocks) : nested body ⊆ n.inner := by
  cases n with
  | block key own =>
      rw [Node.blocks] at h
      rw [Node.inner]
      rcases List.mem_cons.mp h with heq | h
      · obtain ⟨-, rfl⟩ := Prod.mk.inj heq
        exact List.Subset.refl _
      · exact nested_subset_of_mem_blocksIn own h
  | _ => simp [Node.blocks] at h

theorem nested_subset_of_mem_blocksIn (ns : List Node) {name : String} {body : List Node}
    (h : (name, body) ∈ blocksIn ns) : nested body ⊆ nested ns := by
  cases ns with
  | nil => simp [blocksIn] at h
  | cons n ns =>
      rw [blocksIn] at h
      intro m hm
      rw [nested]
      rcases List.mem_append.mp h with h | h
      · simp [nested_subset_of_mem_blocks n h hm]
      · simp [nested_subset_of_mem_blocksIn ns h hm]

end

/-- The blocks of a steady template are steady. -/
theorem IsSteadyBody.of_block {d : Definition} (h : IsSteadyBody involved d.nodes) {name : String}
    {body : List Node} (hbody : d.block? name = some body) : IsSteadyBody involved body := by
  obtain ⟨before, after, hblocks, -⟩ := List.lookup_eq_some_iff.mp hbody
  have hmem : (name, body) ∈ d.blocks := by
    rw [hblocks]
    simp
  exact fun n hn => h n (nested_subset_of_mem_blocksIn d.nodes hmem hn)

/-- The macros of a steady template are steady. -/
theorem IsSteadyBody.of_mem_macros {d : Definition} (h : IsSteadyBody involved d.nodes) {m : Macro}
    (hm : m ∈ d.macros) : IsSteadyBody involved m.body := by
  obtain ⟨n, hn, hmacro⟩ := List.mem_filterMap.mp hm
  cases n with
  | macroDef name params body =>
      cases hmacro
      -- the definition stands among the nodes of the template, not within another
      have hsplit : ∀ ns : List Node, Node.macroDef name params body ∈ ns →
          nested body ⊆ nested ns := by
        intro ns hns
        induction ns with
        | nil => cases hns
        | cons first rest ih =>
            intro k hk
            rw [nested]
            rcases List.mem_cons.mp hns with rfl | hns
            · simp [Node.inner, hk]
            · simp [ih hns hk]
      exact fun k hk => h k (hsplit d.nodes hn hk)
  | _ => cases hmacro

/-! ## Tables of macros -/

namespace IsSteadyTable

variable {table : MacroTable}

theorem insert (h : IsSteadyTable involved table) {spaces : Keyed (String × List Macro)}
    (hspaces : AreSteadyMacros involved spaces) (name : String) :
    IsSteadyTable involved (Keyed.insert name spaces table) := by
  intro p hp
  rcases Keyed.mem_insert hp with rfl | hp
  · exact hspaces
  · exact h p hp

/-- What a template knows, if it knows anything. -/
theorem known (h : IsSteadyTable involved table) (name : String) :
    AreSteadyMacros involved ((Keyed.get? name table).getD []) := by
  cases hget : Keyed.get? name table with
  | none => exact fun p hp => nomatch hp
  | some spaces => exact h _ (Keyed.mem_of_get? hget)

end IsSteadyTable

theorem AreSteadyMacros.inherit {others spaces : Keyed (String × List Macro)}
    (hothers : AreSteadyMacros involved others) (hspaces : AreSteadyMacros involved spaces) :
    AreSteadyMacros involved (inherit others spaces) := by
  intro p hp
  rcases Keyed.mem_inherit hp with hp | hp
  · exact hspaces p hp
  · exact hothers p hp

namespace Library.IsSteady

variable {lib : Library} (h : lib.IsSteady involved)
include h

/-- The macros of a template that is involved are steady. -/
theorem macros {name : String} {d : Definition} (hname : involved name)
    (hd : Keyed.get? name lib = some d) {file : String} (hfile : involved file) (space : String) :
    AreSteadyMacros involved [(space, (file, d.macros))] := by
  intro p hp
  obtain rfl := List.mem_singleton.mp hp
  exact ⟨hfile, fun m hm => (h.body hname hd).of_mem_macros hm⟩

end Library.IsSteady

mutual

/-- The macros of a template that is involved, with those of its imports and its parents, leave a
table steady. -/
theorem Library.IsSteady.addMacros {lib : Library} (h : lib.IsSteady involved) (bound : Nat)
    {name : String} {d : Definition} {table : MacroTable} (hname : involved name)
    (hd : Keyed.get? name lib = some d) (htable : IsSteadyTable involved table) :
    IsSteadyTable involved (lib.addMacros bound d table) := by
  cases bound with
  | zero => exact htable
  | succ n =>
      have himports : ∀ p ∈ d.imports, involved p.1 := fun p hp =>
        h.closed hname hd (by
          have : p.1 ∈ d.imports.map Prod.fst := List.mem_map_of_mem hp
          simp [references, this])
      have hparents : ∀ parent ∈ lib.ancestry d, involved parent := fun parent hp =>
        h.closed hname hd (by simp [references, hp])
      have hown : AreSteadyMacros involved
          (if d.macros.isEmpty then [] else [("self", (d.name, d.macros))]) := by
        split
        · exact fun p hp => nomatch hp
        · exact h.macros hname hd (h.closed hname hd (by simp [references])) "self"
      simp only [Library.addMacros]
      split
      -- what a template knows is added once
      · exact htable
      · obtain ⟨hspaces, htable'⟩ := Library.IsSteady.addImports h n himports hown htable
        exact Library.IsSteady.addParents h n d.name hparents (htable'.insert hspaces d.name)

theorem Library.IsSteady.addImports {lib : Library} (h : lib.IsSteady involved) (bound : Nat)
    {imports : List (String × String)} {spaces : Keyed (String × List Macro)} {table : MacroTable}
    (himports : ∀ p ∈ imports, involved p.1) (hspaces : AreSteadyMacros involved spaces)
    (htable : IsSteadyTable involved table) :
    AreSteadyMacros involved (lib.addImports bound imports spaces table).1 ∧
      IsSteadyTable involved (lib.addImports bound imports spaces table).2 := by
  cases bound with
  | zero => exact ⟨hspaces, htable⟩
  | succ n =>
      cases imports with
      | nil => exact ⟨hspaces, htable⟩
      | cons first rest =>
          obtain ⟨file, space⟩ := first
          have hfile : involved file := himports _ List.mem_cons_self
          have hrest : ∀ p ∈ rest, involved p.1 := fun p hp =>
            himports p (List.mem_cons_of_mem _ hp)
          simp only [Library.addImports]
          cases hd : Keyed.get? file lib with
          | none => exact Library.IsSteady.addImports h n hrest hspaces htable
          | some d =>
              have htable' := Library.IsSteady.addMacros h n hfile hd htable
              have hspaces' : AreSteadyMacros involved
                  (Keyed.insert space (file, d.macros) spaces) := by
                intro p hp
                rcases Keyed.mem_insert hp with rfl | hp
                · exact h.macros hfile hd hfile space _ List.mem_cons_self
                · exact hspaces p hp
              exact Library.IsSteady.addImports h n hrest ((htable'.known file).inherit hspaces')
                htable'

theorem Library.IsSteady.addParents {lib : Library} (h : lib.IsSteady involved) (bound : Nat)
    (name : String) {parents : List String} {table : MacroTable}
    (hparents : ∀ parent ∈ parents, involved parent) (htable : IsSteadyTable involved table) :
    IsSteadyTable involved (lib.addParents bound name parents table) := by
  cases bound with
  | zero => exact htable
  | succ n =>
      cases parents with
      | nil => exact htable
      | cons parent rest =>
          have hparent : involved parent := hparents parent List.mem_cons_self
          have hrest : ∀ p ∈ rest, involved p := fun p hp => hparents p (List.mem_cons_of_mem _ hp)
          simp only [Library.addParents]
          cases hd : Keyed.get? parent lib with
          | none => exact Library.IsSteady.addParents h n name hrest htable
          | some d =>
              have htable' := Library.IsSteady.addMacros h n hparent hd htable
              exact Library.IsSteady.addParents h n name hrest
                (htable'.insert ((htable'.known parent).inherit (htable'.known name)) name)

end

end Template

end FormScaffold

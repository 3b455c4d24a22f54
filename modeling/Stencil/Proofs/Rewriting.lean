import Stencil.Proofs.Lineage

/-!
# Rewriting bodies

Three rules change how a body produces its output, but not what it produces. A nested buffer that
is appended may be replaced by the statements of its body, run on the outer page; a value that is
written escaped may be escaped beforehand; and a nested buffer may be turned into markup.

`Stmt.RewritesAll` applies the rules at any places of a body at once, and `Template.Rewrites` does
so in all bodies that a template holds, those of its ancestors and dependencies included. Names,
identifiers and the order of defs stay, so binding and importing work alike on both sides
(`Scope.Rewrites.bindInto`, `Scope.Rewrites.exports`).
-/

namespace Stencil

/-! ## Rules for bodies -/

/-- Whether an expression has no parts that could be rewritten. -/
def Expr.isAtom : Expr → Bool
  | .literal _ | .parse _ _ | .lookup _ | .lookupOrNull _ | .argument _ | .item | .index | .isOdd
  | .hasDef _ => true
  | _ => false

/-- A statement appends what a nested body writes. -/
inductive Stmt.Appends : Stmt → List Stmt → Prop
  | write (body : List Stmt) : Appends (.write [.buffer body]) body
  | writeEscaped (body : List Stmt) : Appends (.writeEscaped [.buffer body]) body

mutual

/-- An expression becomes another one by the rules. -/
inductive Expr.Rewrites : Expr → Expr → Prop
  | atom {expr : Expr} (atom : expr.isAtom = true) : Expr.Rewrites expr expr
  | buffer {body body' : List Stmt} (inner : Stmt.RewritesAll body body') :
      Expr.Rewrites (.buffer body) (.buffer body')
  /-- A nested buffer becomes markup. -/
  | toMarkup {body body' : List Stmt} (inner : Stmt.RewritesAll body body') :
      Expr.Rewrites (.buffer body) (.markupOf body')
  | markupOf {body body' : List Stmt} (inner : Stmt.RewritesAll body body') :
      Expr.Rewrites (.markupOf body) (.markupOf body')
  | escape {expr expr' : Expr} (inner : Expr.Rewrites expr expr') :
      Expr.Rewrites (.escape expr) (.escape expr')
  | orElse {first first' second second' : Expr} (left : Expr.Rewrites first first')
      (right : Expr.Rewrites second second') :
      Expr.Rewrites (.orElse first second) (.orElse first' second')
  | add {name : String} {expr expr' : Expr} (inner : Expr.Rewrites expr expr') :
      Expr.Rewrites (.add name expr) (.add name expr')
  | call {name : String} {arguments arguments' : List Expr}
      (inner : Expr.RewritesAll arguments arguments') :
      Expr.Rewrites (.call name arguments) (.call name arguments')
  | includeTemplate {index : Nat} {vars vars' : List (String × Expr)}
      (inner : Expr.RewritesPairs vars vars') :
      Expr.Rewrites (.includeTemplate index vars) (.includeTemplate index vars')
  | importCall {index : Nat} {name : String} {arguments arguments' : List Expr}
      (inner : Expr.RewritesAll arguments arguments') :
      Expr.Rewrites (.importCall index name arguments) (.importCall index name arguments')

/-- Expressions become others one by one. -/
inductive Expr.RewritesAll : List Expr → List Expr → Prop
  | nil : Expr.RewritesAll [] []
  | cons {expr expr' : Expr} {exprs exprs' : List Expr} (first : Expr.Rewrites expr expr')
      (rest : Expr.RewritesAll exprs exprs') : Expr.RewritesAll (expr :: exprs) (expr' :: exprs')

/-- Named expressions become others of the same names. -/
inductive Expr.RewritesPairs : List (String × Expr) → List (String × Expr) → Prop
  | nil : Expr.RewritesPairs [] []
  | cons {name : String} {expr expr' : Expr} {pairs pairs' : List (String × Expr)}
      (first : Expr.Rewrites expr expr') (rest : Expr.RewritesPairs pairs pairs') :
      Expr.RewritesPairs ((name, expr) :: pairs) ((name, expr') :: pairs')

/-- Expressions that are written escaped become others one by one. -/
inductive Expr.RewritesEscaped : List Expr → List Expr → Prop
  | nil : Expr.RewritesEscaped [] []
  | cons {expr expr' : Expr} {exprs exprs' : List Expr} (first : Expr.Rewrites expr expr')
      (rest : Expr.RewritesEscaped exprs exprs') :
      Expr.RewritesEscaped (expr :: exprs) (expr' :: exprs')
  /-- What is to be escaped is escaped beforehand. -/
  | escape {expr expr' : Expr} {exprs exprs' : List Expr} (first : Expr.Rewrites expr expr')
      (rest : Expr.RewritesEscaped exprs exprs') :
      Expr.RewritesEscaped (expr :: exprs) (.escape expr' :: exprs')

/-- A statement becomes another one. -/
inductive Stmt.Rewrites : Stmt → Stmt → Prop
  | write {exprs exprs' : List Expr} (inner : Expr.RewritesAll exprs exprs') :
      Stmt.Rewrites (.write exprs) (.write exprs')
  | writeEscaped {exprs exprs' : List Expr} (inner : Expr.RewritesEscaped exprs exprs') :
      Stmt.Rewrites (.writeEscaped exprs) (.writeEscaped exprs')
  | writeArguments : Stmt.Rewrites .writeArguments .writeArguments
  | attributes {pairs pairs' : List (String × Expr)} (inner : Expr.RewritesPairs pairs pairs') :
      Stmt.Rewrites (.attributes pairs) (.attributes pairs')
  | attributesOf {expr expr' : Expr} (inner : Expr.Rewrites expr expr') :
      Stmt.Rewrites (.attributesOf expr) (.attributesOf expr')
  | forEach {expr expr' : Expr} {complaint : Complaint} {body body' : List Stmt}
      (list : Expr.Rewrites expr expr') (repeated : Stmt.RewritesAll body body') :
      Stmt.Rewrites (.forEach expr complaint body) (.forEach expr' complaint body')
  | cond {expr expr' : Expr} {whenTrue whenTrue' whenFalse whenFalse' : List Stmt}
      (condition : Expr.Rewrites expr expr') (left : Stmt.RewritesAll whenTrue whenTrue')
      (right : Stmt.RewritesAll whenFalse whenFalse') :
      Stmt.Rewrites (.cond expr whenTrue whenFalse) (.cond expr' whenTrue' whenFalse')
  | discard {expr expr' : Expr} (inner : Expr.Rewrites expr expr') :
      Stmt.Rewrites (.discard expr) (.discard expr')
  | fail (message : String) : Stmt.Rewrites (.fail message) (.fail message)

/-- A body becomes another one. -/
inductive Stmt.RewritesAll : List Stmt → List Stmt → Prop
  | nil : Stmt.RewritesAll [] []
  | cons {stmt stmt' : Stmt} {stmts stmts' : List Stmt} (first : Stmt.Rewrites stmt stmt')
      (rest : Stmt.RewritesAll stmts stmts') : Stmt.RewritesAll (stmt :: stmts) (stmt' :: stmts')
  /-- The statements of a nested body take the place of the statement that appends it. -/
  | inline {stmt : Stmt} {nested nested' stmts stmts' : List Stmt}
      (appends : stmt.Appends nested) (inner : Stmt.RewritesAll nested nested')
      (rest : Stmt.RewritesAll stmts stmts') :
      Stmt.RewritesAll (stmt :: stmts) (nested' ++ stmts')

end

mutual

theorem Expr.Rewrites.refl : (expr : Expr) → expr.Rewrites expr
  | .literal _ | .parse _ _ | .lookup _ | .lookupOrNull _ | .argument _ | .item | .index | .isOdd
  | .hasDef _ => .atom rfl
  | .buffer body => .buffer (Stmt.RewritesAll.refl body)
  | .markupOf body => .markupOf (Stmt.RewritesAll.refl body)
  | .escape expr => .escape (Expr.Rewrites.refl expr)
  | .orElse first second => .orElse (Expr.Rewrites.refl first) (Expr.Rewrites.refl second)
  | .add _ expr => .add (Expr.Rewrites.refl expr)
  | .call _ arguments => .call (Expr.RewritesAll.refl arguments)
  | .includeTemplate _ vars => .includeTemplate (Expr.RewritesPairs.refl vars)
  | .importCall _ _ arguments => .importCall (Expr.RewritesAll.refl arguments)

theorem Expr.RewritesAll.refl : (exprs : List Expr) → Expr.RewritesAll exprs exprs
  | [] => .nil
  | expr :: exprs => .cons (Expr.Rewrites.refl expr) (Expr.RewritesAll.refl exprs)

theorem Expr.RewritesPairs.refl : (pairs : List (String × Expr)) → Expr.RewritesPairs pairs pairs
  | [] => .nil
  | (_, expr) :: pairs => .cons (Expr.Rewrites.refl expr) (Expr.RewritesPairs.refl pairs)

theorem Expr.RewritesEscaped.refl : (exprs : List Expr) → Expr.RewritesEscaped exprs exprs
  | [] => .nil
  | expr :: exprs => .cons (Expr.Rewrites.refl expr) (Expr.RewritesEscaped.refl exprs)

theorem Stmt.Rewrites.refl : (stmt : Stmt) → stmt.Rewrites stmt
  | .write exprs => .write (Expr.RewritesAll.refl exprs)
  | .writeEscaped exprs => .writeEscaped (Expr.RewritesEscaped.refl exprs)
  | .writeArguments => .writeArguments
  | .attributes pairs => .attributes (Expr.RewritesPairs.refl pairs)
  | .attributesOf expr => .attributesOf (Expr.Rewrites.refl expr)
  | .forEach expr _ body => .forEach (Expr.Rewrites.refl expr) (Stmt.RewritesAll.refl body)
  | .cond expr whenTrue whenFalse =>
      .cond (Expr.Rewrites.refl expr) (Stmt.RewritesAll.refl whenTrue)
        (Stmt.RewritesAll.refl whenFalse)
  | .discard expr => .discard (Expr.Rewrites.refl expr)
  | .fail message => .fail message

theorem Stmt.RewritesAll.refl : (stmts : List Stmt) → Stmt.RewritesAll stmts stmts
  | [] => .nil
  | stmt :: stmts => .cons (Stmt.Rewrites.refl stmt) (Stmt.RewritesAll.refl stmts)

end

/-! ## Templates -/

mutual

/-- The body of a def is rewritten, and so are the templates that it can use. -/
inductive Def.Rewrites : Def → Def → Prop
  | mk {body body' : List Stmt} {dependencies dependencies' : List Template}
      (statements : Stmt.RewritesAll body body')
      (used : Template.RewritesAll dependencies dependencies') :
      Def.Rewrites (.mk body dependencies) (.mk body' dependencies')

/-- Named defs become others of the same names, in the same order. -/
inductive Def.RewritesEntries : List (String × Def) → List (String × Def) → Prop
  | nil : Def.RewritesEntries [] []
  | cons {name : String} {definition definition' : Def} {defs defs' : List (String × Def)}
      (first : Def.Rewrites definition definition') (rest : Def.RewritesEntries defs defs') :
      Def.RewritesEntries ((name, definition) :: defs) ((name, definition') :: defs')

/-- The bodies that a template holds are rewritten, those of its ancestors included. -/
inductive Template.Rewrites : Template → Template → Prop
  | root {id : String} {main main' : Def} {defs defs' : List (String × Def)}
      (entry : Def.Rewrites main main') (own : Def.RewritesEntries defs defs') :
      Template.Rewrites (.root id main defs) (.root id main' defs')
  | extending {id : String} {parent parent' : Template} {defs defs' : List (String × Def)}
      (above : Template.Rewrites parent parent') (own : Def.RewritesEntries defs defs') :
      Template.Rewrites (.extending id parent defs) (.extending id parent' defs')

/-- Templates become others one by one. -/
inductive Template.RewritesAll : List Template → List Template → Prop
  | nil : Template.RewritesAll [] []
  | cons {template template' : Template} {templates templates' : List Template}
      (first : Template.Rewrites template template')
      (rest : Template.RewritesAll templates templates') :
      Template.RewritesAll (template :: templates) (template' :: templates')

end

mutual

theorem Def.Rewrites.refl : (definition : Def) → definition.Rewrites definition
  | .mk body dependencies =>
      .mk (Stmt.RewritesAll.refl body) (Template.RewritesAll.refl dependencies)

theorem Def.RewritesEntries.refl : (defs : List (String × Def)) → Def.RewritesEntries defs defs
  | [] => .nil
  | (_, definition) :: defs => .cons (Def.Rewrites.refl definition) (Def.RewritesEntries.refl defs)

theorem Template.Rewrites.refl : (template : Template) → template.Rewrites template
  | .root _ main defs => .root (Def.Rewrites.refl main) (Def.RewritesEntries.refl defs)
  | .extending _ parent defs =>
      .extending (Template.Rewrites.refl parent) (Def.RewritesEntries.refl defs)

theorem Template.RewritesAll.refl : (templates : List Template) →
    Template.RewritesAll templates templates
  | [] => .nil
  | template :: templates =>
      .cons (Template.Rewrites.refl template) (Template.RewritesAll.refl templates)

end

theorem Def.Rewrites.body {definition definition' : Def}
    (rewrites : definition.Rewrites definition') :
    Stmt.RewritesAll definition.body definition'.body := by
  cases rewrites with
  | mk statements _ => exact statements

theorem Def.Rewrites.dependencies {definition definition' : Def}
    (rewrites : definition.Rewrites definition') :
    Template.RewritesAll definition.dependencies definition'.dependencies := by
  cases rewrites with
  | mk _ used => exact used

theorem Template.Rewrites.id {template template' : Template}
    (rewrites : template.Rewrites template') : template'.id = template.id := by
  cases rewrites <;> rfl

theorem Template.RewritesAll.getElem? {templates templates' : List Template}
    (rewrites : Template.RewritesAll templates templates') (index : Nat) :
    Option.Rel Template.Rewrites templates[index]? templates'[index]? := by
  match rewrites, index with
  | .nil, _ => exact .none
  | .cons first _, 0 => exact .some first
  | .cons _ rest, index + 1 => exact rest.getElem? index

namespace Def.RewritesEntries

variable {defs defs' : List (String × Def)}

theorem get? (rewrites : Def.RewritesEntries defs defs') (name : String) :
    Option.Rel Def.Rewrites (Entries.get? name defs) (Entries.get? name defs') := by
  induction defs generalizing defs' with
  | nil =>
      cases rewrites
      exact .none
  | cons entry defs ih =>
      cases rewrites with
      | cons first rest =>
          rw [Entries.get?_cons, Entries.get?_cons]
          split
          · exact .some first
          · exact ih rest

theorem names (rewrites : Def.RewritesEntries defs defs') :
    Entries.names defs' = Entries.names defs := by
  induction defs generalizing defs' with
  | nil =>
      cases rewrites
      rfl
  | cons entry defs ih =>
      cases rewrites with
      | cons first rest => exact congrArg (List.cons _) (ih rest)

theorem insert (rewrites : Def.RewritesEntries defs defs') (name : String)
    {definition definition' : Def} (new : Def.Rewrites definition definition') :
    Def.RewritesEntries (Entries.insert name definition defs)
      (Entries.insert name definition' defs') := by
  induction defs generalizing defs' with
  | nil =>
      cases rewrites
      exact .cons new .nil
  | cons entry defs ih =>
      cases rewrites with
      | cons first rest =>
          simp only [Entries.insert]
          split
          · exact .cons new (.cons first rest)
          · split
            · exact .cons new rest
            · exact .cons first (ih rest)

end Def.RewritesEntries

/-! ## Scopes -/

/-- The defs of a scope are rewritten, and nothing else is changed. -/
structure Scope.Rewrites (scope other : Scope) : Prop where
  vars : other.vars = scope.vars
  defs : Def.RewritesEntries scope.defs.entries other.defs.entries
  globals : other.globals = scope.globals
  policy : other.policy = scope.policy

namespace Scope.Rewrites

variable {scope other : Scope}

theorem def? (rewrites : scope.Rewrites other) (name : String) :
    Option.Rel Def.Rewrites (scope.def? name) (other.def? name) :=
  rewrites.defs.get? name

theorem hasDef (rewrites : scope.Rewrites other) (name : String) :
    other.hasDef name = scope.hasDef name := by
  have found := rewrites.def? name
  simp only [Scope.def?] at found
  rw [Scope.hasDef, Scope.hasDef, Table.contains, Table.contains]
  generalize scope.defs.get? name = entry, other.defs.get? name = entry' at found
  cases found <;> rfl

theorem hasVar (rewrites : scope.Rewrites other) (name : String) :
    other.hasVar name = scope.hasVar name := by
  rw [Scope.hasVar, Scope.hasVar, rewrites.vars]

theorem lookup (rewrites : scope.Rewrites other) (name : String) :
    other.lookup name = scope.lookup name := by
  simp only [Scope.lookup, resolve, rewrites.vars, rewrites.globals, rewrites.policy]

theorem addVar (rewrites : scope.Rewrites other) (name : String) (value : Json) :
    (scope.addVar name value).Rewrites (other.addVar name value) :=
  { rewrites with vars := by simp only [Scope.addVar, rewrites.vars] }

theorem addDef (rewrites : scope.Rewrites other) (name : String) {definition definition' : Def}
    (new : definition.Rewrites definition') :
    (scope.addDef name definition).Rewrites (other.addDef name definition') := by
  refine { rewrites with defs := ?_ }
  have same : other.defs.contains name = scope.defs.contains name := rewrites.hasDef name
  simp only [Scope.addDef, Table.insertNew, same]
  split
  · exact rewrites.defs
  · exact rewrites.defs.insert name new

theorem addDefs (rewrites : scope.Rewrites other) {defs defs' : List (String × Def)}
    (new : Def.RewritesEntries defs defs') :
    (scope.addDefs defs).Rewrites (other.addDefs defs') := by
  induction defs generalizing scope other defs' with
  | nil =>
      cases new
      exact rewrites
  | cons entry defs ih =>
      cases new with
      | cons first rest => exact ih (rewrites.addDef _ first) rest

theorem bindInto : {scope other : Scope} → scope.Rewrites other →
    {template template' : Template} → template.Rewrites template' →
    (template.bindInto scope).Rewrites (template'.bindInto other)
  | _, _, rewrites, _, _, .root entry own => (rewrites.addDefs own).addDef _ entry
  | _, _, rewrites, _, _, .extending above own => bindInto (rewrites.addDefs own) above

/-- The same names can be imported on both sides. -/
theorem exports (rewrites : scope.Rewrites other) {template template' : Template}
    (new : template.Rewrites template') : template'.exports other = template.exports scope := by
  simp only [Template.exports_eq, Table.names, (rewrites.bindInto new).defs.names,
    rewrites.hasDef]

/-- The fresh scope of an include has no defs that could differ. -/
theorem fresh (rewrites : scope.Rewrites other) (vars : Table Json) :
    Scope.Rewrites { vars, globals := scope.globals, policy := scope.policy }
      { vars, globals := other.globals, policy := other.policy } where
  vars := rfl
  defs := .nil
  globals := rewrites.globals
  policy := rewrites.policy

end Scope.Rewrites

end Stencil

import Stencil.Builtin
import Stencil.Proofs.Flattening
import Stencil.Proofs.Parts
import Stencil.Proofs.Steps

/-!
# Data is written escaped

A body is disciplined if all it writes without escaping are texts of its own and values that are
safe already, and if it writes no attributes whose names come from data. What disciplined bodies
write is composed of pieces that stand in the bodies and of escaped texts, whatever the data is.

The invariant of a run is that its page is composed in this way. Along with it, every value is
`Value.Safe`: if it is markup or a buffer, its text is composed as well, so that it may be written,
put into an attribute or turned into markup again.
-/

namespace Stencil

/-! ## Disciplined bodies -/

/--
Whether the value of an expression may be written as it is: a text that stands in the body, no value
at all, or markup or a buffer.
-/
def Expr.isTrusted : Expr → Bool
  | .literal (.text _) | .literal .undefined | .literal (.markup _) | .literal (.buffer _) => true
  | .buffer _ | .markupOf _ | .escape _ | .call _ _ | .includeTemplate _ _
  | .importCall _ _ _ => true
  | .orElse first second => first.isTrusted && second.isTrusted
  | _ => false

/-- The texts standing in the body that the value of an expression can be. -/
def Expr.ownTexts : Expr → List String
  | .literal (.text plain) => [plain]
  | .orElse first second => first.ownTexts ++ second.ownTexts
  | _ => []

namespace Part

/-- Whether a part writes nothing unescaped that it may not, and names its attributes itself. -/
def isDisciplined : Part → Bool
  | .stmt (.write exprs) => exprs.all Expr.isTrusted
  | .stmt (.attributesOf _) => false
  | _ => true

/-- The texts that a part declares to be written as they are. -/
def literals : Part → List String
  | .expr (.literal (.markup trusted)) => [trusted.text]
  | .expr (.literal (.buffer nested)) => nested.fragments.toList
  | .stmt (.write exprs) => exprs.flatMap Expr.ownTexts
  | _ => []

/-- The names of the attributes that a part writes. -/
def attributeNames : Part → List String
  | .stmt (.attributes pairs) => pairs.map Prod.fst
  | _ => []

end Part

namespace Def

/-- Whether all parts of a body are disciplined. -/
def isDisciplined (definition : Def) : Bool :=
  definition.parts.all Part.isDisciplined

/-- The texts that a body declares to be written as they are. -/
def literals (definition : Def) : List String :=
  definition.parts.flatMap Part.literals

/-- The names of the attributes that a body writes. -/
def attributeNames (definition : Def) : List String :=
  definition.parts.flatMap Part.attributeNames

end Def

/-! ## Composed texts -/

/-- A text stands in one of the bodies of a family, to be written as it is. -/
def IsLiteral (family : Def → Prop) (text : String) : Prop :=
  ∃ definition, family definition ∧ text ∈ definition.literals

/-- A name of an attribute stands in one of the bodies of a family. -/
def IsAttributeName (family : Def → Prop) (name : String) : Prop :=
  ∃ definition, family definition ∧ name ∈ definition.attributeNames

/-- A piece of the output of bodies. -/
inductive Piece (family : Def → Prop) : String → Prop
  /-- A text that stands in a body. -/
  | literal {text : String} : IsLiteral family text → Piece family text
  /-- What comes before the value of an attribute. -/
  | opening {name : String} : IsAttributeName family name → Piece family (" " ++ name ++ "=\"")
  /-- What comes behind the value of an attribute. -/
  | closing {name : String} : IsAttributeName family name → Piece family "\""
  /-- An attribute that is a flag. -/
  | flag {name : String} :
      IsAttributeName family name → Piece family (" " ++ name ++ "=\"" ++ name ++ "\"")
  /-- A text that was escaped. -/
  | escaped (plain : String) : Piece family (Html.escape plain)

/-- A text consists of pieces. -/
def Composed (family : Def → Prop) (text : String) : Prop :=
  ∃ pieces : List String, text = String.join pieces ∧ ∀ piece ∈ pieces, Piece family piece

namespace Composed

variable {family : Def → Prop}

theorem empty : Composed family "" :=
  ⟨[], String.join_nil.symm, fun _ member => absurd member List.not_mem_nil⟩

theorem piece {text : String} (single : Piece family text) : Composed family text :=
  ⟨[text], by simp, by simpa using single⟩

theorem append {first second : String} (left : Composed family first)
    (right : Composed family second) : Composed family (first ++ second) := by
  obtain ⟨before, rfl, before_pieces⟩ := left
  obtain ⟨behind, rfl, behind_pieces⟩ := right
  refine ⟨before ++ behind, by rw [String.join_append], fun piece member => ?_⟩
  rcases List.mem_append.mp member with early | late
  · exact before_pieces piece early
  · exact behind_pieces piece late

theorem join {texts : List String} (each : ∀ text ∈ texts, Composed family text) :
    Composed family (String.join texts) := by
  induction texts with
  | nil => exact empty
  | cons text texts ih =>
      rw [String.join_cons]
      exact (each text List.mem_cons_self).append
        (ih fun later member => each later (List.mem_cons_of_mem _ member))

/-- An attribute is composed if its value is, once escaped. -/
theorem shown {name : String} (named : IsAttributeName family name) {value : AttributeValue}
    (safe : ∀ content, value = .value content → Composed family content.escape.text) :
    Composed family (value.shown name) := by
  match value with
  | .flag true => exact piece (.flag named)
  | .flag false => exact empty
  | .absent => exact empty
  | .value content =>
      exact ((piece (.opening named)).append (safe content rfl)).append (piece (.closing named))

theorem writeAll {page : Buffer} (composed : Composed family page.flatten)
    {contents : List Content} (each : ∀ content ∈ contents, Composed family content.plain) :
    Composed family (page.writeAll contents).flatten := by
  rw [Buffer.flatten_writeAll]
  exact composed.append (.join (List.forall_mem_map.mpr each))

theorem writeAllEscaped {page : Buffer} (composed : Composed family page.flatten)
    {contents : List Content} (each : ∀ content ∈ contents, Composed family content.escape.text) :
    Composed family (page.writeAllEscaped contents).flatten := by
  rw [Buffer.flatten_writeAllEscaped]
  exact composed.append (.join (List.forall_mem_map.mpr each))

theorem spliceAttributes {page : Buffer} (composed : Composed family page.flatten)
    {attributes : List (String × AttributeValue)}
    (each : ∀ pair ∈ attributes, Composed family (pair.2.shown pair.1)) :
    Composed family (page.splice (.ofAttributes attributes)).flatten := by
  rw [Buffer.flatten_splice, Buffer.flatten_ofAttributes]
  exact composed.append (.join (List.forall_mem_map.mpr each))

end Composed

namespace Value

/-- The text of a value is composed once it is escaped. -/
def Safe (family : Def → Prop) (value : Value) : Prop :=
  Composed family value.toContent.escape.text

/-- The text of a value is composed as it stands. -/
def Writable (family : Def → Prop) (value : Value) : Prop :=
  Composed family value.toContent.plain

variable {family : Def → Prop}

/-- Text is safe, as escaping makes a piece of it. -/
theorem safe_of_text {value : Value} {plain : String} (text : value.toContent = .text plain) :
    value.Safe family := by
  rw [Safe, text]
  exact .piece (.escaped plain)

end Value

/-- As the value of an attribute, data is absent, a flag or its text. -/
theorem Json.eq_text_of_toAttribute {data : Json} {content : Content}
    (given : data.toAttribute = .value content) : content = .text data.text := by
  cases data with
  | null => cases given
  | bool => cases given
  | number => exact (AttributeValue.value.inj given).symm
  | string => exact (AttributeValue.value.inj given).symm
  | array => exact (AttributeValue.value.inj given).symm
  | object => exact (AttributeValue.value.inj given).symm

/-- An attribute that has a value shows what would be written. -/
theorem Value.eq_toContent_of_toAttribute {value : Value} {content : Content}
    (given : value.toAttribute = .value content) : content = value.toContent := by
  cases value with
  | undefined => cases given
  | bool => cases given
  | json => exact Json.eq_text_of_toAttribute given
  | text => exact (AttributeValue.value.inj given).symm
  | markup => exact (AttributeValue.value.inj given).symm
  | buffer => exact (AttributeValue.value.inj given).symm
  | jsonText => exact (AttributeValue.value.inj given).symm
  | int => exact (AttributeValue.value.inj given).symm
  | float => exact (AttributeValue.value.inj given).symm

/-! ## Runs of disciplined bodies -/

/-- The page is composed of pieces, and every bound def belongs to the family. -/
def discipline (family : Def → Prop) : Invariant where
  scope := Scope.Within family
  page page := Composed family page.flatten

/-- A part is disciplined, and what it declares stands in a body of a family. -/
structure Part.Fits (family : Def → Prop) (part : Part) : Prop where
  disciplined : part.isDisciplined = true
  literal : ∀ text ∈ part.literals, IsLiteral family text
  named : ∀ name ∈ part.attributeNames, IsAttributeName family name

theorem Def.fits {family : Def → Prop} {definition : Def} (member : family definition)
    (disciplined : definition.isDisciplined = true) :
    ∀ part ∈ definition.parts, part.Fits family := by
  intro part inside
  refine ⟨List.all_eq_true.mp disciplined part inside, fun text declared => ?_, fun name used => ?_⟩
  · exact ⟨definition, member, List.mem_flatMap.mpr ⟨part, inside, declared⟩⟩
  · exact ⟨definition, member, List.mem_flatMap.mpr ⟨part, inside, used⟩⟩

/-- What holds of the value of an expression in a disciplined body. -/
structure Value.Yielded (family : Def → Prop) (expr : Expr) (value : Value) : Prop where
  safe : value.Safe family
  writable : expr.isTrusted = true → (∀ text ∈ expr.ownTexts, IsLiteral family text) →
    value.Writable family

namespace Value.Yielded

variable {family : Def → Prop} {expr : Expr}

theorem of_text {value : Value} {plain : String} (text : value.toContent = .text plain)
    (untrusted : expr.isTrusted = false) : value.Yielded family expr := by
  refine ⟨safe_of_text text, fun trusted => ?_⟩
  rw [untrusted] at trusted
  cases trusted

theorem of_markup {trusted : Markup} (composed : Composed family trusted.text) :
    (Value.markup trusted).Yielded family expr :=
  ⟨composed, fun _ _ => composed⟩

theorem of_buffer {nested : Buffer} (composed : Composed family nested.flatten) :
    (Value.buffer nested).Yielded family expr :=
  ⟨composed, fun _ _ => composed⟩

theorem of_literal {value : Value} (fits : (Part.expr (.literal value)).Fits family) :
    value.Yielded family (.literal value) := by
  cases value with
  | undefined => exact ⟨safe_of_text rfl, fun _ _ => .empty⟩
  | text plain =>
      exact ⟨safe_of_text rfl, fun _ texts => .piece (.literal (texts plain List.mem_cons_self))⟩
  | markup trusted => exact of_markup (.piece (.literal (fits.literal _ List.mem_cons_self)))
  | buffer nested =>
      refine of_buffer ?_
      rw [Buffer.flatten_eq_join]
      exact .join fun text member => .piece (.literal (fits.literal text member))
  | json => exact of_text rfl rfl
  | jsonText data => exact of_text (ownedContent_eq data) rfl
  | bool => exact of_text rfl rfl
  | int => exact of_text rfl rfl
  | float => exact of_text rfl rfl

end Value.Yielded

/-- What holds of the values of expressions in a disciplined body. -/
structure Value.AllYielded (family : Def → Prop) (exprs : List Expr) (values : List Value) :
    Prop where
  safe : ∀ value ∈ values, value.Safe family
  writable : exprs.all Expr.isTrusted = true →
    (∀ text ∈ exprs.flatMap Expr.ownTexts, IsLiteral family text) →
    ∀ value ∈ values, value.Writable family

theorem Value.AllYielded.nil (family : Def → Prop) : Value.AllYielded family [] [] :=
  ⟨fun _ member => absurd member List.not_mem_nil,
    fun _ _ _ member => absurd member List.not_mem_nil⟩

theorem Value.AllYielded.cons {family : Def → Prop} {expr : Expr} {exprs : List Expr}
    {value : Value} {values : List Value} (first : value.Yielded family expr)
    (rest : Value.AllYielded family exprs values) :
    Value.AllYielded family (expr :: exprs) (value :: values) := by
  refine ⟨List.forall_mem_cons.mpr ⟨first.safe, rest.safe⟩, fun trusted texts => ?_⟩
  obtain ⟨trusted_first, trusted_rest⟩ := Bool.and_eq_true_iff.mp trusted
  obtain ⟨texts_first, texts_rest⟩ := List.forall_mem_append.mp texts
  exact List.forall_mem_cons.mpr
    ⟨first.writable trusted_first texts_first, rest.writable trusted_rest texts_rest⟩

/-- Invoking a def of a family keeps to the discipline. -/
def Invocation.Disciplined (family : Def → Prop) (invoke : Invocation) : Prop :=
  ∀ definition arguments, family definition →
    Rendering.Ensures (discipline family) (invoke definition arguments)
      fun buffer => Composed family buffer.flatten

namespace Rendering

variable {family : Def → Prop} {invoke : Invocation}

theorem callDef_disciplined (invocations : invoke.Disciplined family) (name : String)
    (arguments : List Json) :
    Ensures (discipline family) (callDef invoke name arguments)
      fun buffer => Composed family buffer.flatten := by
  refine .bind .scope fun scope within => ?_
  split
  · next definition found => exact invocations definition arguments (within.def? found)
  · exact .fail _ _

theorem runMain_disciplined (invocations : invoke.Disciplined family) (template : String) :
    Ensures (discipline family) (runMain invoke template)
      fun buffer => Composed family buffer.flatten := by
  refine .bind .scope fun scope within => ?_
  split
  · next main found => exact .bind (.note _) fun _ _ => invocations main [] (within.def? found)
  · exact .fail _ _

theorem includeTemplate_disciplined (invocations : invoke.Disciplined family)
    {template : Template} (offered : template.Within family) (vars : Table Json) :
    Ensures (discipline family) (includeTemplate invoke template vars)
      fun buffer => Composed family buffer.flatten := by
  refine .bind .scope fun caller _ => .bind (.note _) fun _ _ => ?_
  refine .inScope ?_ (runMain_disciplined invocations _)
  exact (Scope.within_of_no_defs family vars caller.globals caller.policy).bindInto offered

theorem importCall_disciplined (invocations : invoke.Disciplined family)
    {template : Template} (offered : template.Within family) (name : String)
    (arguments : List Json) :
    Ensures (discipline family) (importCall invoke template name arguments)
      fun buffer => Composed family buffer.flatten := by
  refine .bind .scope fun caller within => .bind (.note _) fun _ _ => ?_
  split
  · exact .inScope (within.bindInto offered) (callDef_disciplined invocations _ _)
  · exact .fail _ _

end Rendering

open Rendering

mutual

theorem Expr.eval_disciplined {family : Def → Prop} {invoke : Invocation}
    (invocations : invoke.Disciplined family) (frame : Frame) (within : frame.Within family) :
    (expr : Expr) → (∀ part ∈ expr.parts, part.Fits family) →
      Ensures (discipline family) (expr.eval invoke frame) (Value.Yielded family expr)
  | .literal value, fits => .pure (.of_literal (fits _ List.mem_cons_self))
  | .parse source asText, _ => by
      refine .bind (.reads (Json.read_reads source)) fun data _ => ?_
      cases asText with
      | true => exact .pure (.of_text (Value.ownedContent_eq data) rfl)
      | false => exact .pure (.of_text rfl rfl)
  | .buffer body, fits => by
      have inside := (List.forall_mem_cons.mp fits).2
      refine .bind (.collect .empty (Stmt.runAll_disciplined invocations frame within body inside))
        fun nested composed => ?_
      exact .pure (.of_buffer composed)
  | .markupOf body, fits => by
      have inside := (List.forall_mem_cons.mp fits).2
      refine .bind (.collect .empty (Stmt.runAll_disciplined invocations frame within body inside))
        fun nested composed => ?_
      exact .pure (.of_markup composed)
  | .escape expr, fits => by
      have inside := (List.forall_mem_cons.mp fits).2
      refine .bind (expr.eval_disciplined invocations frame within inside) fun value yielded => ?_
      exact .pure (.of_markup yielded.safe)
  | .lookup name, _ => by
      refine .bind (.lookup name) fun found _ => ?_
      cases found with
      | none => exact .pure (.of_text rfl rfl)
      | some _ => exact .pure (.of_text rfl rfl)
  | .lookupOrNull name, _ => .bind (.lookupOrNull name) fun _ _ => .pure (.of_text rfl rfl)
  | .orElse first second, fits => by
      obtain ⟨left, right⟩ := List.forall_mem_append.mp (List.forall_mem_cons.mp fits).2
      refine .bind (first.eval_disciplined invocations frame within left) fun value yielded => ?_
      -- Either value may be written, so the pair is trusted only if both are.
      split
      · refine (second.eval_disciplined invocations frame within right).mono fun other later => ?_
        refine ⟨later.safe, fun trusted texts => later.writable ?_ fun text member => ?_⟩
        · exact (Bool.and_eq_true_iff.mp trusted).2
        · exact texts text (List.mem_append_right _ member)
      · refine .pure ⟨yielded.safe, fun trusted texts => yielded.writable ?_ fun text member => ?_⟩
        · exact (Bool.and_eq_true_iff.mp trusted).1
        · exact texts text (List.mem_append_left _ member)
  | .argument index, _ =>
      .bind (.reads (frame.argument_reads index)) fun _ _ => .pure (.of_text rfl rfl)
  | .item, _ => .bind (.reads frame.currentItem_reads) fun _ _ => .pure (.of_text rfl rfl)
  | .index, _ => .bind (.reads frame.currentItem_reads) fun _ _ => .pure (.of_text rfl rfl)
  | .isOdd, _ => .bind (.reads frame.currentItem_reads) fun _ _ => .pure (.of_text rfl rfl)
  | .add name expr, fits => by
      have inside := (List.forall_mem_cons.mp fits).2
      refine .bind (expr.eval_disciplined invocations frame within inside) fun value _ => ?_
      exact .bind (.addVar fun _ kept => kept) fun _ _ => .pure (.of_text rfl rfl)
  | .hasDef _, _ => .bind .scope fun _ _ => .pure (.of_text rfl rfl)
  | .call name arguments, fits => by
      have inside := (List.forall_mem_cons.mp fits).2
      refine .bind (Expr.evalAll_disciplined invocations frame within arguments inside)
        fun values _ => ?_
      refine .bind (callDef_disciplined invocations name _) fun nested composed => ?_
      exact .pure (.of_buffer composed)
  | .includeTemplate index vars, fits => by
      have inside := (List.forall_mem_cons.mp fits).2
      refine .bind (Expr.evalPairs_disciplined invocations frame within vars inside)
        fun values _ => .bind (.reads (frame.dependency_reads index)) fun template used => ?_
      refine .bind (includeTemplate_disciplined invocations (within template used) _)
        fun nested composed => ?_
      exact .pure (.of_buffer composed)
  | .importCall index name arguments, fits => by
      have inside := (List.forall_mem_cons.mp fits).2
      refine .bind (Expr.evalAll_disciplined invocations frame within arguments inside)
        fun values _ => .bind (.reads (frame.dependency_reads index)) fun template used => ?_
      refine .bind (importCall_disciplined invocations (within template used) name _)
        fun nested composed => ?_
      exact .pure (.of_buffer composed)

theorem Expr.evalAll_disciplined {family : Def → Prop} {invoke : Invocation}
    (invocations : invoke.Disciplined family) (frame : Frame) (within : frame.Within family) :
    (exprs : List Expr) → (∀ part ∈ Expr.partsOf exprs, part.Fits family) →
      Ensures (discipline family) (Expr.evalAll invoke frame exprs)
        (Value.AllYielded family exprs)
  | [], _ => .pure (.nil family)
  | expr :: exprs, fits => by
      obtain ⟨first, others⟩ := List.forall_mem_append.mp fits
      refine .bind (expr.eval_disciplined invocations frame within first) fun value yielded => ?_
      refine .bind (Expr.evalAll_disciplined invocations frame within exprs others)
        fun values rest => ?_
      exact .pure (.cons yielded rest)

theorem Expr.evalPairs_disciplined {family : Def → Prop} {invoke : Invocation}
    (invocations : invoke.Disciplined family) (frame : Frame) (within : frame.Within family) :
    (pairs : List (String × Expr)) → (∀ part ∈ Expr.partsOfPairs pairs, part.Fits family) →
      Ensures (discipline family) (Expr.evalPairs invoke frame pairs)
        fun values => ∀ result ∈ values, result.1 ∈ pairs.map Prod.fst ∧ result.2.Safe family
  | [], _ => .pure fun _ member => absurd member List.not_mem_nil
  | (name, expr) :: pairs, fits => by
      obtain ⟨first, others⟩ := List.forall_mem_append.mp fits
      refine .bind (expr.eval_disciplined invocations frame within first) fun value yielded => ?_
      refine .bind (Expr.evalPairs_disciplined invocations frame within pairs others)
        fun values rest => ?_
      refine .pure fun result member => ?_
      rcases List.mem_cons.mp member with rfl | later
      · exact ⟨List.mem_cons_self, yielded.safe⟩
      · exact ⟨List.mem_cons_of_mem _ (rest result later).1, (rest result later).2⟩

theorem Stmt.run_disciplined {family : Def → Prop} {invoke : Invocation}
    (invocations : invoke.Disciplined family) (frame : Frame) (within : frame.Within family) :
    (stmt : Stmt) → (∀ part ∈ stmt.parts, part.Fits family) →
      Ensures (discipline family) (stmt.run invoke frame) fun _ => True
  | .write exprs, fits => by
      obtain ⟨self, inside⟩ := List.forall_mem_cons.mp fits
      refine .bind (Expr.evalAll_disciplined invocations frame within exprs inside)
        fun values yielded => .modifyPage fun page composed => ?_
      have writable := yielded.writable self.disciplined self.literal
      refine .writeAll composed fun content written => ?_
      obtain ⟨value, result, rfl⟩ := List.mem_map.mp written
      exact writable value result
  | .writeEscaped exprs, fits => by
      have inside := (List.forall_mem_cons.mp fits).2
      refine .bind (Expr.evalAll_disciplined invocations frame within exprs inside)
        fun values yielded => .modifyPage fun page composed => ?_
      refine .writeAllEscaped composed fun content written => ?_
      obtain ⟨value, result, rfl⟩ := List.mem_map.mp written
      exact yielded.safe value result
  | .writeArguments, _ => by
      rw [Stmt.run]
      refine .modifyPage fun page composed => ?_
      refine .writeAllEscaped composed fun content written => ?_
      obtain ⟨argument, _, rfl⟩ := List.mem_map.mp written
      exact .piece (.escaped argument.text)
  | .attributes pairs, fits => by
      obtain ⟨self, inside⟩ := List.forall_mem_cons.mp fits
      refine .bind (Expr.evalPairs_disciplined invocations frame within pairs inside)
        fun values safe => .modifyPage fun page composed => ?_
      refine .spliceAttributes composed fun pair written => ?_
      obtain ⟨⟨name, value⟩, result, rfl⟩ := List.mem_map.mp written
      obtain ⟨used, value_safe⟩ := safe _ result
      refine .shown (self.named name used) fun content given => ?_
      rw [Value.eq_toContent_of_toAttribute given]
      exact value_safe
  -- The names of the attributes would be data, so this is not in a disciplined body.
  | .attributesOf _, fits => nomatch (fits _ List.mem_cons_self).disciplined
  | .forEach expr complaint body, fits => by
      obtain ⟨first, repeated⟩ := List.forall_mem_append.mp (List.forall_mem_cons.mp fits).2
      refine .bind (expr.eval_disciplined invocations frame within first) fun value _ => ?_
      refine .bind (.reads (value.items_reads complaint)) fun items _ => ?_
      refine .forEach (fun item position => ?_) items 0
      exact Stmt.runAll_disciplined invocations { frame with current := some (item, position) }
        within body repeated
  | .cond expr whenTrue whenFalse, fits => by
      obtain ⟨first, branches⟩ := List.forall_mem_append.mp (List.forall_mem_cons.mp fits).2
      obtain ⟨left, right⟩ := List.forall_mem_append.mp branches
      refine .bind (expr.eval_disciplined invocations frame within first) fun value _ => ?_
      split
      · exact Stmt.runAll_disciplined invocations frame within whenTrue left
      · exact Stmt.runAll_disciplined invocations frame within whenFalse right
  | .discard expr, fits => by
      have inside := (List.forall_mem_cons.mp fits).2
      exact .bind (expr.eval_disciplined invocations frame within inside) fun _ _ => .pure trivial
  | .fail _, _ => .fail _ _

theorem Stmt.runAll_disciplined {family : Def → Prop} {invoke : Invocation}
    (invocations : invoke.Disciplined family) (frame : Frame) (within : frame.Within family) :
    (stmts : List Stmt) → (∀ part ∈ Stmt.partsOf stmts, part.Fits family) →
      Ensures (discipline family) (Stmt.runAll invoke frame stmts) fun _ => True
  | [], _ => .pure trivial
  | stmt :: stmts, fits => by
      obtain ⟨first, others⟩ := List.forall_mem_append.mp fits
      refine .bind (stmt.run_disciplined invocations frame within first) fun _ _ => ?_
      exact Stmt.runAll_disciplined invocations frame within stmts others

end

/-- Invoking a disciplined def from a closed family keeps to the discipline, at every depth. -/
theorem Def.invoke_disciplined {family : Def → Prop} (closed : Def.Closed family)
    (disciplined : ∀ definition, family definition → definition.isDisciplined = true)
    (depth : Nat) : Invocation.Disciplined family (Def.invoke depth) := by
  induction depth with
  | zero => exact fun _ _ _ _ _ _ ended => nomatch ended
  | succ depth ih =>
      intro definition arguments member
      have fits := Def.fits member (disciplined definition member)
      have within : Frame.Within family { arguments, dependencies := definition.dependencies } :=
        closed definition member
      exact .collect .empty (Stmt.runAll_disciplined ih _ within definition.body fits)

/--
Where all bodies that a template can reach are disciplined, nothing but escaped text gets from the
data into the output. This holds of every render that succeeds, and of every def that is called with
any arguments.
-/
theorem Template.output_composed_of_disciplined (template : Template) (scope : Scope)
    (disciplined : ∀ definition,
      Def.Reachable (template.offeredDefs ++ scope.boundDefs) definition →
        definition.isDisciplined = true) :
    (∀ depth run html, (template.bind scope).render depth = some run → run.outcome = .ok html →
      Composed (Def.Reachable (template.offeredDefs ++ scope.boundDefs)) html) ∧
    ∀ depth name arguments run buffer,
      (callDef (Def.invoke depth) name arguments).run (template.bind scope).scope = some run →
      run.outcome = .ok buffer →
        Composed (Def.Reachable (template.offeredDefs ++ scope.boundDefs)) buffer.flatten := by
  have invocations := Def.invoke_disciplined (Def.Reachable.closed _) disciplined
  have initial : (discipline (Def.Reachable (template.offeredDefs ++ scope.boundDefs))).Holds
      { scope := template.bindInto scope } :=
    ⟨template.bindInto_within_reachable scope, .empty⟩
  constructor
  · intro depth run html ended succeeded
    rw [Bound.render_eq, Option.map_eq_some_iff] at ended
    obtain ⟨⟨result, after⟩, ran, rfl⟩ := ended
    obtain ⟨_, composed⟩ := runMain_disciplined (invocations depth) _ _ _ _ ran initial
    cases result with
    | error => cases succeeded
    | ok buffer =>
        cases succeeded
        exact composed buffer rfl
  · intro depth name arguments run buffer ended succeeded
    rw [Rendering.run, Option.map_eq_some_iff] at ended
    obtain ⟨⟨result, after⟩, ran, rfl⟩ := ended
    obtain ⟨_, composed⟩ := callDef_disciplined (invocations depth) _ _ _ _ _ ran initial
    exact composed buffer succeeded

open Builtin in
/-- The bodies of an article are disciplined, and so is that of the greeting it includes. -/
theorem Builtin.article_disciplined {definition : Def}
    (reached : Def.Reachable ((article page greeting).offeredDefs ++ []) definition) :
    definition.isDisciplined = true ∧
      ∀ template ∈ definition.dependencies, template = greeting := by
  induction reached with
  | start member =>
      simp only [List.append_nil, Template.offeredDefs, Template.offers, article, page,
        Template.lineage_extending, Template.lineage_root, Template.entryPoint, List.cons_append,
        List.nil_append, List.map_cons, List.map_nil, List.mem_cons, List.not_mem_nil,
        or_false] at member
      rcases member with rfl | rfl | rfl | rfl | rfl <;> exact ⟨rfl, by simp [Def.dependencies]⟩
  | dependency _ used offered ih =>
      obtain rfl := ih.2 _ used
      simp only [Template.offeredDefs, Template.offers, greeting, Template.lineage_root,
        Template.entryPoint, List.nil_append, List.map_cons, List.map_nil,
        List.mem_singleton] at offered
      subst offered
      exact ⟨rfl, by simp [Def.dependencies]⟩

open Builtin in
theorem Builtin.article_output_composed :
    ∃ run html,
      ((article page greeting).bind {
        vars := .ofList [("author", .string "A & \"B\""), ("headline", .string "<i>")] }).render 8 =
          some run ∧
      run.outcome = .ok html ∧
      Composed (Def.Reachable ((article page greeting).offeredDefs ++ [])) html := by
  have succeeds : (((article page greeting).bind {
      vars := .ofList [("author", .string "A & \"B\""), ("headline", .string "<i>")] }).render 8).any
        (fun run => run.outcome.isOk) = true := by
    decide +kernel
  obtain ⟨run, ended, succeeded⟩ := (Option.any_eq_true _ _).mp succeeds
  match outcome : run.outcome with
  | .error _ =>
      rw [outcome] at succeeded
      cases succeeded
  | .ok html =>
      refine ⟨run, html, ended, outcome, ?_⟩
      exact (Template.output_composed_of_disciplined _ _ fun _ reached =>
        (article_disciplined reached).1).1 8 run html ended outcome

end Stencil

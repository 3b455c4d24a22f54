import Mathlib.Data.List.Forall2
import Mathlib.Logic.Relation
import Stencil.Builtin
import Stencil.Proofs.Flattening
import Stencil.Proofs.Rewriting
import Stencil.Proofs.Steps

/-!
# Rewritten bodies write the same

Of a buffer nothing can be seen but its text, so the rules of `Stmt.RewritesAll` keep the output of
every body, the errors, and what is left in the scope. `Family.render_of_equivalent` says this for
whole families of templates, rewritten at any number of places, in either direction, any number of
times.

Two runs go side by side, of a body and of the rewritten one. A nested body starts on a blank page,
but where it was inlined it goes on with the outer page. Hence pages correspond up to a text that
stands before the second one, and the rules for steps hold for all such texts
(`Rendering.Matches`).
-/

namespace Stencil

/-! ## Values that are used alike -/

/-- Two buffers hold the same text, in whatever fragments. -/
def Buffer.SameText (buffer other : Buffer) : Prop :=
  other.flatten = buffer.flatten

/-- Values that differ at most in how written output is kept. -/
inductive Value.Alike : Value → Value → Prop
  | same (value : Value) : Alike value value
  | buffers {nested other : Buffer} (text : nested.SameText other) :
      Alike (.buffer nested) (.buffer other)
  | marked {nested other : Buffer} (text : nested.SameText other) :
      Alike (.buffer nested) (.markup other.toMarkup)

namespace Value.Alike

variable {value other : Value}

theorem toJson (alike : value.Alike other) : other.toJson = value.toJson := by
  cases alike with
  | same => rfl
  | buffers text => exact congrArg Json.string text
  | marked text => exact congrArg Json.string text

theorem plain (alike : value.Alike other) : other.toContent.plain = value.toContent.plain := by
  cases alike with
  | same => rfl
  | buffers text => exact text
  | marked text => exact text

theorem escape (alike : value.Alike other) : other.toContent.escape = value.toContent.escape := by
  cases alike with
  | same => rfl
  | buffers text => exact congrArg Markup.mk text
  | marked text => exact congrArg Markup.mk text

theorem shown (alike : value.Alike other) (name : String) :
    other.toAttribute.shown name = value.toAttribute.shown name := by
  cases alike with
  | same => rfl
  | buffers text => simp only [toAttribute, AttributeValue.shown, (buffers text).escape]
  | marked text => simp only [toAttribute, AttributeValue.shown, (marked text).escape]

theorem isTruthy (alike : value.Alike other) : other.isTruthy = value.isTruthy := by
  cases alike <;> rfl

theorem items (alike : value.Alike other) (complaint : Complaint) :
    other.items complaint = value.items complaint := by
  rw [Value.items, Value.items, alike.toJson]

theorem fields (alike : value.Alike other) : other.fields = value.fields := by
  rw [Value.fields, Value.fields, alike.toJson]

end Value.Alike

/-! ## Steps that match -/

/-- Two runs stand alike, but for a text that stands before the second page. -/
structure Progress.Rewrites (before : String) (left right : Progress) : Prop where
  scope : left.scope.Rewrites right.scope
  page : right.page.flatten = before ++ left.page.flatten

namespace Rendering

variable {α β γ δ : Type} {before : String}

/-- Neither of two steps has ended, or both have, alike; after an error no page is read. -/
inductive Alike (before : String) (values : α → β → Prop) :
    Option (Except RenderError α × Progress) → Option (Except RenderError β × Progress) → Prop
  | unended : Alike before values none none
  | value {value : α} {other : β} {left right : Progress} (related : values value other)
      (after : left.Rewrites before right) :
      Alike before values (some (.ok value, left)) (some (.ok other, right))
  | error {error : RenderError} {left right : Progress}
      (scopes : left.scope.Rewrites right.scope) :
      Alike before values (some (.error error, left)) (some (.error error, right))

/-- From places that are alike, two steps end alike. -/
def Matches (before : String) (values : α → β → Prop) (first : Rendering α)
    (second : Rendering β) : Prop :=
  ∀ left right, left.Rewrites before right → Alike before values (first left) (second right)

namespace Matches

variable {values : α → β → Prop} {others : γ → δ → Prop}

theorem pure {value : α} {other : β} (related : values value other) :
    Matches before values (pure value) (pure other) :=
  fun _ _ start => .value related start

theorem fail (error : RenderError) :
    Matches before values (Rendering.fail error) (Rendering.fail error) :=
  fun _ _ start => .error start.scope

theorem unending : Matches before values Rendering.unending Rendering.unending :=
  fun _ _ _ => .unended

theorem reads {step : Rendering α} {promise : α → Prop} (reads : Reads promise step) :
    Matches before Eq step step := by
  cases reads with
  | value => exact pure rfl
  | error => exact fail _

theorem scope : Matches before Scope.Rewrites Rendering.scope Rendering.scope :=
  fun _ _ start => .value start.scope start

theorem note (events others : List Event) :
    Matches before Eq (Rendering.note events) (Rendering.note others) :=
  fun _ _ start => .value rfl ⟨start.scope, start.page⟩

theorem lookup (name : String) :
    Matches before Eq (Rendering.lookup name) (Rendering.lookup name) := by
  intro left right start
  rw [lookup_apply, lookup_apply, start.scope.lookup]
  split
  · exact .error start.scope
  · exact .value rfl start
  · exact .value rfl ⟨start.scope, start.page⟩

theorem addVar (name : String) (value : Json) :
    Matches before Eq (Rendering.addVar name value) (Rendering.addVar name value) := by
  intro left right start
  simp only [Rendering.addVar, Scope.storeVar, start.scope.hasVar]
  exact .value rfl ⟨start.scope.addVar name value, start.page⟩

/-- Both pages grow by the same text, whatever fragments it comes in. -/
theorem modifyPage {change other : Buffer → Buffer} {text : String}
    (grows : ∀ page, (change page).flatten = page.flatten ++ text)
    (other_grows : ∀ page, (other page).flatten = page.flatten ++ text) :
    Matches before Eq (Rendering.modifyPage change) (Rendering.modifyPage other) := by
  intro left right start
  refine .value rfl ⟨start.scope, ?_⟩
  rw [grows, other_grows, start.page, String.append_assoc]

theorem bind {first : Rendering α} {second : Rendering β} {next : α → Rendering γ}
    {other : β → Rendering δ} (steps : Matches before values first second)
    (nexts : ∀ value value', values value value' →
      Matches before others (next value) (other value')) :
    Matches before others (first >>= next) (second >>= other) := by
  intro left right start
  have ended := steps left right start
  rw [bind_apply, bind_apply]
  generalize first left = one, second right = two at ended ⊢
  cases ended with
  | unended => exact .unended
  | error scopes => exact .error scopes
  | value related after => exact nexts _ _ related _ _ after

theorem lookupOrNull (name : String) :
    Matches before Eq (Rendering.lookupOrNull name) (Rendering.lookupOrNull name) := by
  rw [lookupOrNull_eq]
  exact .bind (.lookup name) fun _ _ same => same ▸ pure rfl

/-- A value may be changed after the second step, if the change keeps what the values share. -/
theorem then_pure {first : Rendering α} {second : Rendering β} {change : β → δ}
    {changed : α → δ → Prop} (steps : Matches before values first second)
    (kept : ∀ value value', values value value' → changed value (change value')) :
    Matches before changed first (second >>= fun value => Pure.pure (change value)) := by
  intro left right start
  have ended := steps left right start
  rw [bind_apply]
  generalize first left = one, second right = two at ended ⊢
  cases ended with
  | unended => exact .unended
  | error scopes => exact .error scopes
  | value related after => exact .value (kept _ _ related) after

/-- Nested bodies start on blank pages, and the outer pages stay as they were. -/
theorem collect {first second : Rendering Unit} (steps : Matches "" Eq first second) :
    Matches before Buffer.SameText (Rendering.collect first) (Rendering.collect second) := by
  intro left right start
  have blank : Progress.Rewrites "" { left with page := {} } { right with page := {} } :=
    ⟨start.scope, rfl⟩
  have ended := steps _ _ blank
  simp only [Rendering.collect]
  generalize first { left with page := {} } = one, second { right with page := {} } = two at ended ⊢
  cases ended with
  | unended => exact .unended
  | error scopes => exact .error scopes
  | value _ after =>
      exact .value (after.page.trans String.empty_append) ⟨after.scope, start.page⟩

/-- A nested body that is spliced into the page matches one that writes to the page itself. -/
theorem splice {first second : Rendering Unit}
    (steps : ∀ before, Matches before Eq first second) :
    Matches before Eq
      (Rendering.collect first >>= fun nested => Rendering.modifyPage (·.splice nested))
      second := by
  intro left right start
  -- What stands on the outer page so far is what stands before the inlined body.
  have blank : Progress.Rewrites right.page.flatten { left with page := {} } right :=
    ⟨start.scope, String.append_empty.symm⟩
  have ended := steps _ _ _ blank
  simp only [bind_apply, Rendering.collect]
  generalize first { left with page := {} } = one, second right = two at ended ⊢
  cases ended with
  | unended => exact .unended
  | error scopes => exact .error scopes
  | value _ after =>
      refine .value rfl ⟨after.scope, ?_⟩
      simp only [Buffer.flatten_splice]
      rw [after.page, start.page, String.append_assoc]

theorem inScope {scope other : Scope} {first : Rendering α} {second : Rendering β}
    (scopes : scope.Rewrites other) (steps : Matches before values first second) :
    Matches before values (Rendering.inScope scope first) (Rendering.inScope other second) := by
  intro left right start
  have entered : Progress.Rewrites before { left with scope := scope }
      { right with scope := other } := ⟨scopes, start.page⟩
  have ended := steps _ _ entered
  simp only [Rendering.inScope]
  generalize first { left with scope := scope } = one,
    second { right with scope := other } = two at ended ⊢
  cases ended with
  | unended => exact .unended
  | error _ => exact .error start.scope
  | value related after => exact .value related ⟨start.scope, after.page⟩

theorem forEach {first second : α → Nat → Rendering Unit}
    (steps : ∀ item position, Matches before Eq (first item position) (second item position))
    (items : List α) (position : Nat) :
    Matches before Eq (Rendering.forEach first items position)
      (Rendering.forEach second items position) := by
  induction items generalizing position with
  | nil => exact pure rfl
  | cons item items ih => exact bind (steps item position) fun _ _ _ => ih (position + 1)

end Matches

/-! ## Calls and other templates -/

/-- Invoking a def writes the same as invoking a rewritten one. -/
def Respects (invoke : Invocation) : Prop :=
  ∀ before definition definition' arguments, definition.Rewrites definition' →
    Matches before Buffer.SameText (invoke definition arguments) (invoke definition' arguments)

variable {invoke : Invocation}

theorem callDef_matches (respects : Respects invoke) (name : String) (arguments : List Json) :
    Matches before Buffer.SameText (callDef invoke name arguments)
      (callDef invoke name arguments) := by
  refine .bind .scope fun scope other scopes => ?_
  match scope.def? name, other.def? name, scopes.def? name with
  | _, _, .none => exact .fail _
  | _, _, .some found => exact respects _ _ _ _ found

theorem runMain_matches (respects : Respects invoke) (template : String) :
    Matches before Buffer.SameText (runMain invoke template) (runMain invoke template) := by
  refine .bind .scope fun scope other scopes => ?_
  match scope.def? Template.mainName, other.def? Template.mainName,
    scopes.def? Template.mainName with
  | _, _, .none => exact .fail _
  | _, _, .some main => exact .bind (.note _ _) fun _ _ _ => respects _ _ _ _ main

theorem includeTemplate_matches (respects : Respects invoke) {template template' : Template}
    (rewrites : template.Rewrites template') (vars : Table Json) :
    Matches before Buffer.SameText (includeTemplate invoke template vars)
      (includeTemplate invoke template' vars) := by
  refine .bind .scope fun scope other scopes => .bind (.note _ _) fun _ _ _ => ?_
  rw [rewrites.id]
  exact .inScope ((scopes.fresh vars).bindInto rewrites) (runMain_matches respects template.id)

theorem importCall_matches (respects : Respects invoke) {template template' : Template}
    (rewrites : template.Rewrites template') (name : String) (arguments : List Json) :
    Matches before Buffer.SameText (importCall invoke template name arguments)
      (importCall invoke template' name arguments) := by
  refine .bind .scope fun scope other scopes => .bind (.note _ _) fun _ _ _ => ?_
  rw [scopes.exports rewrites]
  split
  · exact .inScope (scopes.bindInto rewrites) (callDef_matches respects name arguments)
  · exact .fail _

end Rendering

/-! ## Bodies -/

open Rendering

/-- Two bodies see the same, but for templates that are rewritten. -/
structure Frame.Rewrites (frame other : Frame) : Prop where
  arguments : other.arguments = frame.arguments
  dependencies : Template.RewritesAll frame.dependencies other.dependencies
  current : other.current = frame.current

namespace Frame.Rewrites

variable {frame other : Frame}

theorem argument (frames : frame.Rewrites other) (index : Nat) :
    other.argument index = frame.argument index := by
  rw [Frame.argument, Frame.argument, frames.arguments]

theorem currentItem (frames : frame.Rewrites other) : other.currentItem = frame.currentItem := by
  rw [Frame.currentItem, Frame.currentItem, frames.current]

theorem dependency (frames : frame.Rewrites other) (before : String) (index : Nat) :
    Matches before Template.Rewrites (frame.dependency index) (other.dependency index) := by
  rw [Frame.dependency, Frame.dependency]
  match frame.dependencies[index]?, other.dependencies[index]?,
    frames.dependencies.getElem? index with
  | _, _, .none => exact .fail _
  | _, _, .some rewrites => exact .pure rewrites

end Frame.Rewrites

/-- Statements in a row are run one part after the other. -/
theorem Stmt.runAll_append (invoke : Invocation) (frame : Frame) (stmts rest : List Stmt) :
    Stmt.runAll invoke frame (stmts ++ rest) =
      Stmt.runAll invoke frame stmts >>= fun _ => Stmt.runAll invoke frame rest := by
  induction stmts with
  | nil => rfl
  | cons stmt stmts ih =>
      funext progress
      simp only [List.cons_append, Stmt.runAll, ih, bind_apply]
      rcases stmt.run invoke frame progress with _ | ⟨_ | _, _⟩ <;> rfl

/-- A nested body is run on a page of its own, which is then spliced in, escaped or not. -/
theorem Stmt.Appends.run_eq {stmt : Stmt} {body : List Stmt} (appends : stmt.Appends body)
    (invoke : Invocation) (frame : Frame) :
    stmt.run invoke frame =
      collect (Stmt.runAll invoke frame body) >>= fun nested => modifyPage (·.splice nested) := by
  funext progress
  cases appends with
  | write =>
      simp only [Stmt.run, Expr.evalAll, Expr.eval, bind_apply]
      rcases collect (Stmt.runAll invoke frame body) progress with _ | ⟨_ | _, _⟩ <;> rfl
  | writeEscaped =>
      simp only [Stmt.run, Expr.evalAll, Expr.eval, bind_apply]
      rcases collect (Stmt.runAll invoke frame body) progress with _ | ⟨_ | _, _⟩ <;> rfl

/-- An expression without parts has the same value in both runs. -/
theorem Expr.eval_atom {invoke : Invocation} {frame other : Frame} (frames : frame.Rewrites other)
    (before : String) {expr : Expr} (atom : expr.isAtom = true) :
    Matches before Value.Alike (expr.eval invoke frame) (expr.eval invoke other) := by
  have pure_same : ∀ value : Value,
      Matches before Value.Alike (pure value : Rendering Value) (pure value) :=
    fun value => .pure (.same value)
  cases expr with
  | literal value => exact pure_same value
  | parse source asText =>
      refine .bind (.reads (Json.read_reads source)) fun _ _ same => ?_
      exact same ▸ pure_same _
  | lookup name => exact .bind (.lookup name) fun _ _ same => same ▸ pure_same _
  | lookupOrNull name => exact .bind (.lookupOrNull name) fun _ _ same => same ▸ pure_same _
  | argument index =>
      rw [Expr.eval, Expr.eval, frames.argument]
      exact .bind (.reads (frame.argument_reads index)) fun _ _ same => same ▸ pure_same _
  | item =>
      rw [Expr.eval, Expr.eval, frames.currentItem]
      exact .bind (.reads frame.currentItem_reads) fun _ _ same => same ▸ pure_same _
  | index =>
      rw [Expr.eval, Expr.eval, frames.currentItem]
      exact .bind (.reads frame.currentItem_reads) fun _ _ same => same ▸ pure_same _
  | isOdd =>
      rw [Expr.eval, Expr.eval, frames.currentItem]
      exact .bind (.reads frame.currentItem_reads) fun _ _ same => same ▸ pure_same _
  | hasDef name =>
      refine .bind .scope fun scope other scopes => ?_
      rw [scopes.hasDef]
      exact pure_same _
  | _ => cases atom

/-! ### Lists of values -/

/-- Lists that correspond one by one look the same through what their elements agree on. -/
theorem map_eq_of_forall₂ {α β : Type} {values : α → α → Prop} {list other : List α}
    (view : α → β) (related : List.Forall₂ values list other)
    (same : ∀ value value', values value value' → view value' = view value) :
    other.map view = list.map view := by
  induction related with
  | nil => rfl
  | cons head _ ih => rw [List.map_cons, List.map_cons, same _ _ head, ih]

namespace Value

/-- Values that are used alike, one by one. -/
def AlikeAll : List Value → List Value → Prop :=
  List.Forall₂ Value.Alike

/-- Named values that are used alike, one by one. -/
def AlikePairs : List (String × Value) → List (String × Value) → Prop :=
  List.Forall₂ fun pair pair' => pair'.1 = pair.1 ∧ pair.2.Alike pair'.2

/-- Values that are written alike where they are escaped, one by one. -/
def EscapedAll : List Value → List Value → Prop :=
  List.Forall₂ fun value value' => value'.toContent.escape = value.toContent.escape

variable {values values' : List Value} {pairs pairs' : List (String × Value)}

theorem AlikeAll.toJson (alike : AlikeAll values values') :
    values'.map Value.toJson = values.map Value.toJson :=
  map_eq_of_forall₂ _ alike fun _ _ => Alike.toJson

theorem AlikeAll.written (alike : AlikeAll values values') (page : Buffer) :
    (page.writeAll (values'.map Value.toContent)).flatten =
      (page.writeAll (values.map Value.toContent)).flatten := by
  have texts := map_eq_of_forall₂ (Content.plain ∘ Value.toContent) alike fun _ _ => Alike.plain
  rw [page.flatten_writeAll, page.flatten_writeAll, List.map_map, List.map_map, texts]

theorem EscapedAll.written (escaped : EscapedAll values values') (page : Buffer) :
    (page.writeAllEscaped (values'.map Value.toContent)).flatten =
      (page.writeAllEscaped (values.map Value.toContent)).flatten := by
  have texts := map_eq_of_forall₂ ((·.escape.text) ∘ Value.toContent) escaped fun _ _ =>
    congrArg Markup.text
  rw [page.flatten_writeAllEscaped, page.flatten_writeAllEscaped, List.map_map, List.map_map,
    texts]

theorem AlikePairs.toJson (alike : AlikePairs pairs pairs') :
    (pairs'.map fun (name, value) => (name, value.toJson)) =
      pairs.map fun (name, value) => (name, value.toJson) := by
  refine map_eq_of_forall₂ _ alike ?_
  rintro ⟨name, value⟩ ⟨_, value'⟩ ⟨rfl, same⟩
  exact congrArg (Prod.mk _) same.toJson

theorem AlikePairs.written (alike : AlikePairs pairs pairs') :
    (Buffer.ofAttributes (pairs'.map fun (name, value) => (name, value.toAttribute))).flatten =
      (Buffer.ofAttributes (pairs.map fun (name, value) => (name, value.toAttribute))).flatten := by
  rw [Buffer.flatten_ofAttributes, Buffer.flatten_ofAttributes, List.map_map, List.map_map]
  refine congrArg String.join (map_eq_of_forall₂ _ alike ?_)
  rintro ⟨name, value⟩ ⟨_, value'⟩ ⟨rfl, same⟩
  exact same.shown _

end Value

/-! ### Expressions and statements -/

mutual

theorem Expr.eval_rewrites {invoke : Invocation} (respects : Respects invoke) {frame other : Frame}
    (frames : frame.Rewrites other) (before : String) :
    {expr expr' : Expr} → expr.Rewrites expr' →
      Matches before Value.Alike (expr.eval invoke frame) (expr'.eval invoke other)
  | _, _, .atom atom => Expr.eval_atom frames before atom
  | _, _, .buffer inner =>
      .bind (.collect (Stmt.runAll_rewrites respects frames "" inner)) fun _ _ text =>
        .pure (.buffers text)
  | _, _, .toMarkup inner =>
      .bind (.collect (Stmt.runAll_rewrites respects frames "" inner)) fun _ _ text =>
        .pure (.marked text)
  | _, _, .markupOf inner => by
      refine .bind (.collect (Stmt.runAll_rewrites respects frames "" inner)) fun _ _ text => ?_
      rw [Buffer.toMarkup, Buffer.toMarkup, text]
      exact .pure (.same _)
  | _, _, .escape inner => by
      refine .bind (Expr.eval_rewrites respects frames before inner) fun _ _ alike => ?_
      rw [alike.escape]
      exact .pure (.same _)
  | _, _, .orElse left right => by
      refine .bind (Expr.eval_rewrites respects frames before left) fun value _ alike => ?_
      cases alike with
      | buffers text => exact .pure (.buffers text)
      | marked text => exact .pure (.marked text)
      | same =>
          split
          · exact Expr.eval_rewrites respects frames before right
          · exact .pure (.same _)
  | _, _, .add inner => by
      refine .bind (Expr.eval_rewrites respects frames before inner) fun _ _ alike => ?_
      rw [alike.toJson]
      exact .bind (.addVar _ _) fun _ _ same => same ▸ .pure (.same _)
  | _, _, .call inner => by
      refine .bind (Expr.evalAll_rewrites respects frames before inner) fun _ _ alike => ?_
      rw [alike.toJson]
      exact .bind (callDef_matches respects _ _) fun _ _ text => .pure (.buffers text)
  | _, _, .includeTemplate inner => by
      refine .bind (Expr.evalPairs_rewrites respects frames before inner) fun _ _ alike =>
        .bind (frames.dependency before _) fun _ _ rewrites => ?_
      rw [alike.toJson]
      exact .bind (includeTemplate_matches respects rewrites _) fun _ _ text =>
        .pure (.buffers text)
  | _, _, .importCall inner => by
      refine .bind (Expr.evalAll_rewrites respects frames before inner) fun _ _ alike =>
        .bind (frames.dependency before _) fun _ _ rewrites => ?_
      rw [alike.toJson]
      exact .bind (importCall_matches respects rewrites _ _) fun _ _ text => .pure (.buffers text)

theorem Expr.evalAll_rewrites {invoke : Invocation} (respects : Respects invoke)
    {frame other : Frame} (frames : frame.Rewrites other) (before : String) :
    {exprs exprs' : List Expr} → Expr.RewritesAll exprs exprs' →
      Matches before Value.AlikeAll (Expr.evalAll invoke frame exprs)
        (Expr.evalAll invoke other exprs')
  | _, _, .nil => .pure .nil
  | _, _, .cons first rest =>
      .bind (Expr.eval_rewrites respects frames before first) fun _ _ head =>
        .bind (Expr.evalAll_rewrites respects frames before rest) fun _ _ others =>
          .pure (.cons head others)

theorem Expr.evalPairs_rewrites {invoke : Invocation} (respects : Respects invoke)
    {frame other : Frame} (frames : frame.Rewrites other) (before : String) :
    {pairs pairs' : List (String × Expr)} → Expr.RewritesPairs pairs pairs' →
      Matches before Value.AlikePairs (Expr.evalPairs invoke frame pairs)
        (Expr.evalPairs invoke other pairs')
  | _, _, .nil => .pure .nil
  | _, _, .cons first rest =>
      .bind (Expr.eval_rewrites respects frames before first) fun _ _ head =>
        .bind (Expr.evalPairs_rewrites respects frames before rest) fun _ _ others =>
          .pure (.cons ⟨rfl, head⟩ others)

theorem Expr.evalEscaped_rewrites {invoke : Invocation} (respects : Respects invoke)
    {frame other : Frame} (frames : frame.Rewrites other) (before : String) :
    {exprs exprs' : List Expr} → Expr.RewritesEscaped exprs exprs' →
      Matches before Value.EscapedAll (Expr.evalAll invoke frame exprs)
        (Expr.evalAll invoke other exprs')
  | _, _, .nil => .pure .nil
  | _, _, .cons first rest =>
      .bind (Expr.eval_rewrites respects frames before first) fun _ _ head =>
        .bind (Expr.evalEscaped_rewrites respects frames before rest) fun _ _ others =>
          .pure (.cons head.escape others)
  | _, _, .escape first rest =>
      .bind (.then_pure (Expr.eval_rewrites respects frames before first)
          fun _ _ head => head.escape) fun _ _ head =>
        .bind (Expr.evalEscaped_rewrites respects frames before rest) fun _ _ others =>
          .pure (.cons head others)

theorem Stmt.run_rewrites {invoke : Invocation} (respects : Respects invoke)
    {frame other : Frame} (frames : frame.Rewrites other) (before : String) :
    {stmt stmt' : Stmt} → stmt.Rewrites stmt' →
      Matches before Eq (stmt.run invoke frame) (stmt'.run invoke other)
  | _, _, .write inner =>
      .bind (Expr.evalAll_rewrites respects frames before inner) fun _ _ alike =>
        .modifyPage (fun page => page.flatten_writeAll _) fun page =>
          (alike.written page).trans (page.flatten_writeAll _)
  | _, _, .writeEscaped inner =>
      .bind (Expr.evalEscaped_rewrites respects frames before inner) fun _ _ escaped =>
        .modifyPage (fun page => page.flatten_writeAllEscaped _) fun page =>
          (escaped.written page).trans (page.flatten_writeAllEscaped _)
  | _, _, .writeArguments => by
      rw [Stmt.run, Stmt.run, frames.arguments]
      exact .modifyPage (fun page => page.flatten_writeAllEscaped _) fun page =>
        page.flatten_writeAllEscaped _
  | _, _, .attributes inner => by
      refine .bind (Expr.evalPairs_rewrites respects frames before inner) fun _ _ alike =>
        .modifyPage (fun page => page.flatten_splice _) fun page => ?_
      rw [page.flatten_splice, alike.written]
  | _, _, .attributesOf inner => by
      refine .bind (Expr.eval_rewrites respects frames before inner) fun value _ alike => ?_
      rw [alike.fields]
      refine .bind (.reads value.fields_reads) fun fields _ same => same ▸ ?_
      exact .modifyPage (fun page => page.flatten_splice _) fun page => page.flatten_splice _
  | _, _, .forEach list repeated => by
      refine .bind (Expr.eval_rewrites respects frames before list) fun value _ alike => ?_
      rw [alike.items]
      refine .bind (.reads (value.items_reads _)) fun items _ same => same ▸ ?_
      refine .forEach (fun item position => ?_) items 0
      have inside : Frame.Rewrites { frame with current := some (item, position) }
          { other with current := some (item, position) } :=
        ⟨frames.arguments, frames.dependencies, rfl⟩
      exact Stmt.runAll_rewrites respects inside before repeated
  | _, _, .cond condition left right => by
      refine .bind (Expr.eval_rewrites respects frames before condition) fun value _ alike => ?_
      rw [alike.isTruthy]
      split
      · exact Stmt.runAll_rewrites respects frames before left
      · exact Stmt.runAll_rewrites respects frames before right
  | _, _, .discard inner =>
      .bind (Expr.eval_rewrites respects frames before inner) fun _ _ _ => .pure rfl
  | _, _, .fail _ => .fail _

theorem Stmt.runAll_rewrites {invoke : Invocation} (respects : Respects invoke)
    {frame other : Frame} (frames : frame.Rewrites other) (before : String) :
    {stmts stmts' : List Stmt} → Stmt.RewritesAll stmts stmts' →
      Matches before Eq (Stmt.runAll invoke frame stmts) (Stmt.runAll invoke other stmts')
  | _, _, .nil => .pure rfl
  | _, _, .cons first rest =>
      .bind (Stmt.run_rewrites respects frames before first) fun _ _ _ =>
        Stmt.runAll_rewrites respects frames before rest
  | _, _, .inline appends inner rest => by
      rw [Stmt.runAll, appends.run_eq, Stmt.runAll_append]
      -- The inlined body goes on with the outer page, so any text may stand before what it writes.
      refine .bind (.splice fun before => ?_) fun _ _ _ =>
        Stmt.runAll_rewrites respects frames before rest
      exact Stmt.runAll_rewrites respects frames before inner

end

/-- Invoking a rewritten def writes the same, at every depth. -/
theorem Def.invoke_respects (depth : Nat) : Respects (Def.invoke depth) := by
  induction depth with
  | zero => exact fun _ _ _ _ _ => .unending
  | succ depth ih =>
      intro before definition definition' arguments rewrites
      have frames : Frame.Rewrites { arguments, dependencies := definition.dependencies }
          { arguments, dependencies := definition'.dependencies } :=
        ⟨rfl, rewrites.dependencies, rfl⟩
      exact .collect (Stmt.runAll_rewrites ih frames "" rewrites.body)

/-! ## Families of templates -/

/-- A template, with all that it holds, and the defs that are bound before it. -/
structure Family where
  /-- The template. -/
  template : Template
  /-- The defs that a scope has before the template is bound. -/
  defs : Table Def := ∅

namespace Family

/-- The template of a family, bound over a context. -/
def bind (family : Family) (vars globals : Table Json) (policy : Policy) : Bound :=
  family.template.bind { vars, defs := family.defs, globals, policy }

/-- Any number of places in the bodies of a family are rewritten. -/
structure Rewrites (family other : Family) : Prop where
  template : family.template.Rewrites other.template
  defs : Def.RewritesEntries family.defs.entries other.defs.entries

theorem Rewrites.scope {family other : Family} (rewrites : family.Rewrites other)
    (vars globals : Table Json) (policy : Policy) :
    (family.bind vars globals policy).scope.Rewrites (other.bind vars globals policy).scope := by
  have start : Scope.Rewrites { vars, defs := family.defs, globals, policy }
      { vars, defs := other.defs, globals, policy } := ⟨rfl, rewrites.defs, rfl, rfl⟩
  exact start.bindInto rewrites.template

end Family

/--
Two renders end alike. The scopes they leave differ at most in the bodies of defs, which are then
equivalent by the rules.
-/
structure Run.Same (run second : Run String Bound) : Prop where
  outcome : second.outcome = run.outcome
  vars : second.state.scope.vars = run.state.scope.vars
  globals : second.state.scope.globals = run.state.scope.globals
  policy : second.state.scope.policy = run.state.scope.policy
  defs : Relation.EqvGen Def.RewritesEntries run.state.scope.defs.entries
    second.state.scope.defs.entries

namespace Run.Same

variable {run second third : Run String Bound}

theorem refl (run : Run String Bound) : run.Same run :=
  ⟨rfl, rfl, rfl, rfl, .refl _⟩

theorem symm (same : run.Same second) : second.Same run :=
  ⟨same.outcome.symm, same.vars.symm, same.globals.symm, same.policy.symm, same.defs.symm⟩

theorem trans (left : run.Same second) (right : second.Same third) : run.Same third :=
  ⟨right.outcome.trans left.outcome, right.vars.trans left.vars, right.globals.trans left.globals,
    right.policy.trans left.policy, left.defs.trans _ _ _ right.defs⟩

end Run.Same

/-- Templates bound in scopes that are rewritten render alike. -/
theorem Bound.render_rewrites {bound other : Bound} (scopes : bound.scope.Rewrites other.scope)
    (same : other.id = bound.id) (depth : Nat) :
    Option.Rel Run.Same (bound.render depth) (other.render depth) := by
  have start : Progress.Rewrites "" { scope := bound.scope } { scope := other.scope } :=
    ⟨scopes, rfl⟩
  have ended := runMain_matches (Def.invoke_respects depth) bound.id _ _ start
  rw [Bound.render_eq, Bound.render_eq, same]
  match runMain (Def.invoke depth) bound.id { scope := bound.scope },
    runMain (Def.invoke depth) bound.id { scope := other.scope }, ended with
  | _, _, .unended => exact .none
  | _, _, .error left =>
      exact .some ⟨rfl, left.vars, left.globals, left.policy, .rel _ _ left.defs⟩
  | _, _, .value text ⟨left, _⟩ =>
      exact .some ⟨congrArg Except.ok text, left.vars, left.globals, left.policy,
        .rel _ _ left.defs⟩

/--
Families that are equivalent by the rules render alike, over every context and under every policy:
one ends whenever the other does, with the same text or the same error, and leaves the same scope.
-/
theorem Family.render_of_equivalent {family other : Family}
    (equivalent : Relation.EqvGen Family.Rewrites family other) (vars globals : Table Json)
    (policy : Policy) (depth : Nat) :
    Option.Rel Run.Same ((family.bind vars globals policy).render depth)
      ((other.bind vars globals policy).render depth) := by
  induction equivalent with
  | rel family other rewrites =>
      exact Bound.render_rewrites (rewrites.scope vars globals policy) rewrites.template.id depth
  | refl family =>
      match (family.bind vars globals policy).render depth with
      | none => exact .none
      | some run => exact .some (.refl run)
  | symm family other _ ih =>
      match (family.bind vars globals policy).render depth,
        (other.bind vars globals policy).render depth, ih with
      | _, _, .none => exact .none
      | _, _, .some same => exact .some same.symm
  | trans family middle other _ _ left right =>
      match (family.bind vars globals policy).render depth,
        (middle.bind vars globals policy).render depth,
        (other.bind vars globals policy).render depth, left, right with
      | _, _, _, .none, .none => exact .none
      | _, _, _, .some same, .some same' => exact .some (same.trans same')

namespace Builtin

/-- A menu of `items` for a `user`, put together from nested buffers. -/
def menu : Template :=
  .root "menu" (.mk [
    .write [.buffer [
      .text "<nav",
      .attributes [("title", .buffer [.writeEscaped [.lookupOrNull "title"]])],
      .text ">"]],
    .forEach (.lookupOrNull "items") { text := "menu: no items", showsValue := false } [
      .writeEscaped [.buffer [.text "<a>", .writeEscaped [.item], .text "</a>"]]],
    .write [.includeTemplate 0 [("name", .lookupOrNull "user")]],
    .text "</nav>"] [greeting]) []

/-- The same menu, written in one go. -/
def inlinedMenu : Template :=
  .root "menu" (.mk [
    .text "<nav",
    .attributes [("title", .markupOf [.writeEscaped [.escape (.lookupOrNull "title")]])],
    .text ">",
    .forEach (.lookupOrNull "items") { text := "menu: no items", showsValue := false } [
      .text "<a>", .writeEscaped [.escape .item], .text "</a>"],
    .write [.includeTemplate 0 [("name", .lookupOrNull "user")]],
    .text "</nav>"] [greeting]) []

/-- A context with reserved characters. -/
def menuVars : Table Json :=
  .ofList [("items", .array [.string "<b>"]), ("user", .string "Ada")]

/-- Globals with reserved characters. -/
def menuGlobals : Table Json :=
  .ofList [("title", .string "A & B")]

theorem menu_rewrites : menu.Rewrites inlinedMenu := by
  have title : Expr.RewritesPairs
      [("title", .buffer [.writeEscaped [.lookupOrNull "title"]])]
      [("title", .markupOf [.writeEscaped [.escape (.lookupOrNull "title")]])] :=
    .cons (.toMarkup (.cons (.writeEscaped (.escape (.refl _) .nil)) .nil)) .nil
  have head : Stmt.RewritesAll
      [.text "<nav", .attributes [("title", .buffer [.writeEscaped [.lookupOrNull "title"]])],
        .text ">"]
      [.text "<nav",
        .attributes [("title", .markupOf [.writeEscaped [.escape (.lookupOrNull "title")]])],
        .text ">"] :=
    .cons (.refl _) (.cons (.attributes title) (.refl _))
  have item : Stmt.RewritesAll [.text "<a>", .writeEscaped [.item], .text "</a>"]
      [.text "<a>", .writeEscaped [.escape .item], .text "</a>"] :=
    .cons (.refl _) (.cons (.writeEscaped (.escape (.refl _) .nil)) (.refl _))
  have items : Stmt.RewritesAll
      [.writeEscaped [.buffer [.text "<a>", .writeEscaped [.item], .text "</a>"]]]
      [.text "<a>", .writeEscaped [.escape .item], .text "</a>"] :=
    .inline (.writeEscaped _) item .nil
  refine .root (.mk ?_ (.refl _)) .nil
  exact .inline (.write _) head (.cons (.forEach (.refl _) items) (.refl _))

/-- Over reserved characters, both menus come to the same text, with nothing escaped twice. -/
theorem menu_inlined_renders_alike :
    ∃ run second,
      (Family.bind { template := menu } menuVars menuGlobals .strict).render 8 = some run ∧
      (Family.bind { template := inlinedMenu } menuVars menuGlobals .strict).render 8 =
        some second ∧
      run.outcome.toOption = some
        ("<nav title=\"A &amp; B\"><a>&lt;b&gt;</a>" ++
          "<p class=\"greeting\">Hello, Ada!</p></nav>") ∧
      run.Same second := by
  have equivalent : Relation.EqvGen Family.Rewrites { template := menu }
      { template := inlinedMenu } := .rel _ _ ⟨menu_rewrites, .nil⟩
  have text : ((Family.bind { template := menu } menuVars menuGlobals .strict).render 8).map
      (·.outcome.toOption) = some (some
        ("<nav title=\"A &amp; B\"><a>&lt;b&gt;</a>" ++
          "<p class=\"greeting\">Hello, Ada!</p></nav>")) := by
    decide +kernel
  obtain ⟨run, ended, written⟩ := Option.map_eq_some_iff.mp text
  have same := Family.render_of_equivalent equivalent menuVars menuGlobals .strict 8
  rw [ended] at same
  cases second_ended :
      (Family.bind { template := inlinedMenu } menuVars menuGlobals .strict).render 8 with
  | none =>
      rw [second_ended] at same
      cases same
  | some second =>
      rw [second_ended] at same
      cases same with
      | some same => exact ⟨run, second, ended, rfl, written, same⟩

end Builtin

end Stencil

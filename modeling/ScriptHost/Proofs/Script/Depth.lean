import ScriptHost.Script.Grammar.Statements

/-!
# Reading with more stack

A source that can be read with some of the stack is read as the same program with more of it.
Every reader hands its room on to the readers that it calls, and otherwise takes no notice of
it, so what `ReadsAs` says of the results of those it says of its own.  The readers that call
each other are given as readers for one call less.
-/

namespace ScriptHost.Script

variable {α β : Type} {x y : Except Rejection α}

/-- A result is another one, unless the room was used up. -/
def ReadsAs (x y : Except Rejection α) : Prop := x = .error .tooDeep ∨ x = y

namespace ReadsAs

theorem same (x : Except Rejection α) : ReadsAs x x := .inr rfl

theorem tooDeep (x : Except Rejection α) : ReadsAs (.error .tooDeep) x := .inl rfl

theorem bind {f f' : α → Except Rejection β} (h : ReadsAs x y)
    (hf : ∀ a, ReadsAs (f a) (f' a)) : ReadsAs (x >>= f) (y >>= f') := by
  rcases h with rfl | rfl
  · exact .inl rfl
  · cases x with
    | error e => exact .inr rfl
    | ok a => exact hf a

theorem map (f : α → β) (h : ReadsAs x y) : ReadsAs (x.map f) (y.map f) := by
  rcases h with rfl | rfl
  · exact .inl rfl
  · exact .inr rfl

theorem ite {c : Prop} [Decidable c] {x' y' : Except Rejection α} (h : ReadsAs x y)
    (h' : ReadsAs x' y') : ReadsAs (if c then x else x') (if c then y else y') := by
  split
  · exact h
  · exact h'

end ReadsAs

/-- The same surroundings, with some room. -/
def Surroundings.withRoom (s : Surroundings) (n : Nat) : Surroundings := { s with room := n }

/-- Readers of one grammar read as those of another one that have at least as much room. -/
structure Grammar.Fits (g g' : Grammar) : Prop where
  assignment {s : Surroundings} {n : Nat} (hn : s.room ≤ n) (ls : List Lexeme) :
    ReadsAs (g.assignment s ls) (g'.assignment (s.withRoom n) ls)
  unary {s : Surroundings} {n : Nat} (hn : s.room ≤ n) (ls : List Lexeme) :
    ReadsAs (g.unary s ls) (g'.unary (s.withRoom n) ls)
  statement {s : Surroundings} {n : Nat} (hn : s.room ≤ n) (listed : Bool) (ls : List Lexeme) :
    ReadsAs (g.statement s listed ls) (g'.statement (s.withRoom n) listed ls)

variable {g g' : Grammar} {s : Surroundings} {n : Nat}

/-- What lies deeper has less room in both. -/
theorem within_readsAs {read read' : Surroundings → Reader α} (hn : s.room ≤ n) (depth : Nat)
    (h : ∀ {s : Surroundings} {n : Nat}, s.room ≤ n → ∀ ls,
      ReadsAs (read s ls) (read' (s.withRoom n) ls)) (ls : List Lexeme) :
    ReadsAs (s.within depth read ls) ((s.withRoom n).within depth read' ls) := by
  unfold Surroundings.within
  by_cases hroom : s.room < depth
  · rw [if_pos hroom]
    exact .tooDeep _
  · have hroom' : ¬(s.withRoom n).room < depth := fun hlt => hroom (Nat.lt_of_le_of_lt hn hlt)
    rw [if_neg hroom, if_neg hroom']
    exact h (s := { s with room := s.room - depth }) (Nat.sub_le_sub_right hn depth) ls

/-! ## Repetition -/

theorem listUntil_readsAs (close : String) {item item' : Reader α}
    (h : ∀ ls, ReadsAs (item ls) (item' ls)) (fuel : Nat) (read : List α) (ls : List Lexeme) :
    ReadsAs (listUntil close item fuel read ls) (listUntil close item' fuel read ls) := by
  induction fuel generalizing read ls with
  | zero => exact .same _
  | succ fuel ih =>
      refine .ite (.same _) ((h ls).bind fun p => ?_)
      exact .ite (ih _ _) (.same _)

theorem elementsUntil_readsAs {item item' : Reader Expr}
    (h : ∀ ls, ReadsAs (item ls) (item' ls)) (fuel : Nat) (read : List (Option Expr))
    (ls : List Lexeme) :
    ReadsAs (elementsUntil item fuel read ls) (elementsUntil item' fuel read ls) := by
  induction fuel generalizing read ls with
  | zero => exact .same _
  | succ fuel ih =>
      refine .ite (.same _) (.ite (ih _ _) ((h ls).bind fun p => ?_))
      exact .ite (ih _ _) (.same _)

section Readers

variable (hg : g.Fits g') (hn : s.room ≤ n)

include hg hn

/-! ## Functions -/

theorem statementsUntilBrace_readsAs (fuel : Nat) (read : List Stmt) (ls : List Lexeme) :
    ReadsAs (statementsUntilBrace g s fuel read ls)
      (statementsUntilBrace g' (s.withRoom n) fuel read ls) := by
  induction fuel generalizing read ls with
  | zero => exact .same _
  | succ fuel ih => exact .ite (.same _) ((hg.statement hn true ls).bind fun _ => ih _ _)

theorem functionBody_readsAs (q : Suspension) (ps : List Name) (ls : List Lexeme) :
    ReadsAs (functionBody g s q ps ls) (functionBody g' (s.withRoom n) q ps ls) := by
  refine .bind (.same _) fun ls => .bind ?_ fun _ => .same _
  exact within_readsAs (s := s.ofBody q) hn bodyWeight
    (fun hn => statementsUntilBrace_readsAs hg hn _ []) ls

theorem functionRest_readsAs (name : Name) (style : FunctionStyle) (q : Suspension)
    (bindsItself : Bool) (ls : List Lexeme) :
    ReadsAs (functionRest g s name style q bindsItself ls)
      (functionRest g' (s.withRoom n) name style q bindsItself ls) := by
  refine .bind (.same _) fun ls => .bind (.same _) fun p => ?_
  exact .bind (functionBody_readsAs hg hn q _ _) fun _ => .same _

theorem functionAfterKeyword_readsAs (isAsync needsName : Bool) (ls : List Lexeme) :
    ReadsAs (functionAfterKeyword g s isAsync needsName ls)
      (functionAfterKeyword g' (s.withRoom n) isAsync needsName ls) := by
  unfold functionAfterKeyword
  dsimp only
  cases nextWord? (if nextIsMark ls "*" then ls.tail else ls) with
  | none => exact .ite (.same _) (functionRest_readsAs hg hn _ _ _ _ _)
  | some name =>
      cases needsName with
      | false => exact .ite (functionRest_readsAs hg hn _ _ _ _ _) (.same _)
      | true => exact .ite (functionRest_readsAs hg hn _ _ _ _ _) (.same _)

omit hg hn in
theorem withText_readsAs {read read' : Reader Lambda} (h : ∀ ls, ReadsAs (read ls) (read' ls))
    (ls : List Lexeme) : ReadsAs (withText read ls) (withText read' ls) :=
  (h ls).bind fun _ => .same _

/-- Where there is a function for one there is one for the other. -/
theorem functionOrClass?_readsAs (needsName : Bool) (ls : List Lexeme) :
    Option.Rel ReadsAs (functionOrClass? g s needsName ls)
      (functionOrClass? g' (s.withRoom n) needsName ls) := by
  unfold functionOrClass?
  split
  · exact .some (withText_readsAs (fun _ => functionAfterKeyword_readsAs hg hn _ _ _) ls)
  · split
    · exact .some (withText_readsAs (fun _ => functionAfterKeyword_readsAs hg hn _ _ _) ls)
    · split
      · exact .some (.same _)
      · exact .none

theorem arrowBody_readsAs (q : Suspension) (ps : List Name) (ls : List Lexeme) :
    ReadsAs (arrowBody g s q ps ls) (arrowBody g' (s.withRoom n) q ps ls) := by
  refine .ite ((functionBody_readsAs hg hn q ps ls).bind fun _ => .same _)
    (.bind ?_ fun _ => .same _)
  exact within_readsAs hn bodyWeight
    (fun {s n} hn => hg.assignment (s := { s with awaits := q == .waits, yields := false }) hn) ls

theorem arrowFunction?_readsAs (ls : List Lexeme) :
    Option.Rel ReadsAs (arrowFunction? g s ls) (arrowFunction? g' (s.withRoom n) ls) := by
  -- The head of an arrow has no other code in it.
  have hhead (s : Surroundings) (ls : List Lexeme) :
      arrowHead? (s.withRoom n) ls = arrowHead? s ls := rfl
  have hwaiting : arrowHead? { s.withRoom n with awaits := true } ls.tail =
      arrowHead? { s with awaits := true } ls.tail := rfl
  unfold arrowFunction?
  rw [hhead, hwaiting]
  dsimp only
  cases (if nextIsWord ls "async" && !freshLine ls.tail then
      arrowHead? { s with awaits := true } ls.tail else none) with
  | some head => exact .some (withText_readsAs (fun _ => arrowBody_readsAs hg hn _ _ _) ls)
  | none =>
      cases arrowHead? s ls with
      | none => exact .none
      | some head => exact .some (withText_readsAs (fun _ => arrowBody_readsAs hg hn _ _ _) ls)

/-! ## Expressions -/

theorem sequenceRest_readsAs (fuel : Nat) (e : Expr) (ls : List Lexeme) :
    ReadsAs (sequenceRest g s fuel e ls) (sequenceRest g' (s.withRoom n) fuel e ls) := by
  induction fuel generalizing e ls with
  | zero => exact .same _
  | succ fuel ih => exact .ite ((hg.assignment hn _).bind fun _ => ih _ _) (.same _)

theorem expression_readsAs (ls : List Lexeme) :
    ReadsAs (expression g s ls) (expression g' (s.withRoom n) ls) :=
  (hg.assignment hn ls).bind fun _ => sequenceRest_readsAs hg hn _ _ _

theorem bracketed_readsAs (close : String) (ls : List Lexeme) :
    ReadsAs (bracketed g s close ls) (bracketed g' (s.withRoom n) close ls) :=
  (within_readsAs hn bracketWeight (expression_readsAs hg) ls).bind fun _ => .same _

theorem memberKey_readsAs (ls : List Lexeme) :
    ReadsAs (memberKey g s ls) (memberKey g' (s.withRoom n) ls) := by
  unfold memberKey
  split
  · exact .same _
  · exact .same _
  · exact .ite ((within_readsAs hn bracketWeight hg.assignment _).bind fun _ => .same _) (.same _)

theorem method_readsAs (q : Suspension) (start ls : List Lexeme) :
    ReadsAs (method g s q start ls) (method g' (s.withRoom n) q start ls) :=
  (memberKey_readsAs hg hn ls).bind fun _ =>
    (functionRest_readsAs hg hn _ _ _ _ _).bind fun _ => .same _

theorem dataMember_readsAs (ls : List Lexeme) :
    ReadsAs (dataMember g s ls) (dataMember g' (s.withRoom n) ls) := by
  refine (memberKey_readsAs hg hn ls).bind fun p => .ite ?_ (.ite ?_ (.same _))
  · exact (functionRest_readsAs hg hn _ _ _ _ _).bind fun _ => .same _
  · exact (hg.assignment hn _).bind fun _ => .same _

theorem member_readsAs (ls : List Lexeme) :
    ReadsAs (member g s ls) (member g' (s.withRoom n) ls) := by
  refine .ite ?_ (.ite ?_ (.ite ?_ (.ite ?_ (dataMember_readsAs hg hn ls))))
  all_goals exact (method_readsAs hg hn _ _ _).bind fun _ => .same _

theorem objectRest_readsAs (ls : List Lexeme) :
    ReadsAs (objectRest g s ls) (objectRest g' (s.withRoom n) ls) :=
  (listUntil_readsAs _ (member_readsAs hg hn) _ _ _).bind fun _ => .same _

theorem arrayRest_readsAs (ls : List Lexeme) :
    ReadsAs (arrayRest g s ls) (arrayRest g' (s.withRoom n) ls) :=
  (elementsUntil_readsAs (hg.assignment hn) _ _ _).bind fun _ => .same _

theorem primary_readsAs (ls : List Lexeme) :
    ReadsAs (primary g s ls) (primary g' (s.withRoom n) ls) := by
  cases ls with
  | nil => exact .same _
  | cons l rest =>
      unfold primary
      refine .ite (bracketed_readsAs hg hn _ _) (.ite ?_ (.ite ?_ ?_))
      · exact within_readsAs hn bracketWeight (arrayRest_readsAs hg) rest
      · exact within_readsAs hn bracketWeight (objectRest_readsAs hg) rest
      · have h := functionOrClass?_readsAs hg hn false (l :: rest)
        generalize functionOrClass? g s false (l :: rest) = x at h ⊢
        generalize functionOrClass? g' (s.withRoom n) false (l :: rest) = y at h ⊢
        cases h with
        | some h => exact h.map _
        | none => exact .same _

theorem argumentList_readsAs (ls : List Lexeme) :
    ReadsAs (argumentList g s ls) (argumentList g' (s.withRoom n) ls) :=
  within_readsAs hn bracketWeight
    (fun hn => listUntil_readsAs ")" (hg.assignment hn) _ []) ls

theorem memberRest_readsAs (calls : Bool) (fuel : Nat) (e : Expr) (ls : List Lexeme) :
    ReadsAs (memberRest g s calls fuel e ls) (memberRest g' (s.withRoom n) calls fuel e ls) := by
  induction fuel generalizing e ls with
  | zero => exact .same _
  | succ fuel ih =>
      refine .ite ?_ (.ite ?_ (.ite ?_ (.same _)))
      · cases nextWord? ls.tail with
        | none => exact .same _
        | some name => exact ih _ _
      · exact (bracketed_readsAs hg hn _ _).bind fun _ => ih _ _
      · exact (argumentList_readsAs hg hn _).bind fun _ => ih _ _

omit hn in
theorem constructed_readsAs (fuel : Nat) {s : Surroundings} {n : Nat} (hn : s.room ≤ n)
    (ls : List Lexeme) :
    ReadsAs (constructed g fuel s ls) (constructed g' fuel (s.withRoom n) ls) := by
  induction fuel generalizing s n ls with
  | zero => exact .same _
  | succ fuel ih =>
      refine .ite ?_ (primary_readsAs hg hn ls)
      refine (within_readsAs hn readerWeight (fun hn ls => ih hn ls) _).bind fun p => ?_
      refine (memberRest_readsAs hg hn _ _ _ _).bind fun p => ?_
      exact .ite ((argumentList_readsAs hg hn _).bind fun _ => .same _) (.same _)

theorem leftHandSide_readsAs (ls : List Lexeme) :
    ReadsAs (leftHandSide g s ls) (leftHandSide g' (s.withRoom n) ls) :=
  (constructed_readsAs hg _ hn ls).bind fun _ => memberRest_readsAs hg hn _ _ _ _

theorem postfixed_readsAs (ls : List Lexeme) :
    ReadsAs (postfixed g s ls) (postfixed g' (s.withRoom n) ls) :=
  (leftHandSide_readsAs hg hn ls).bind fun _ => .same _

theorem unaryRule_readsAs (ls : List Lexeme) :
    ReadsAs (unaryRule g s ls) (unaryRule g' (s.withRoom n) ls) := by
  cases ls with
  | nil => exact .same _
  | cons l rest =>
      unfold unaryRule
      dsimp only
      cases unaryOp? l with
      | some op => exact (hg.unary hn rest).bind fun _ => .same _
      | none =>
          refine .ite ?_ (.ite ?_ (.ite ?_ (.ite ?_ (postfixed_readsAs hg hn _))))
          all_goals exact (hg.unary hn rest).bind fun _ => .same _

omit hg hn in
theorem chainRest_readsAs (ops : List (String × BinaryOp)) {operand operand' : Reader Expr}
    (h : ∀ ls, ReadsAs (operand ls) (operand' ls)) (fuel : Nat) (e : Expr) (ls : List Lexeme) :
    ReadsAs (chainRest ops operand fuel e ls) (chainRest ops operand' fuel e ls) := by
  induction fuel generalizing e ls with
  | zero => exact .same _
  | succ fuel ih =>
      unfold chainRest
      cases operator? ops ls with
      | none => exact .same _
      | some op => exact (h _).bind fun _ => ih _ _

omit hg hn in
/-- The levels of operators, from some operands on. -/
theorem foldl_chain_readsAs (levels : List (List (String × BinaryOp))) (rounds : Nat)
    {operand operand' : Reader Expr} (h : ∀ ls, ReadsAs (operand ls) (operand' ls))
    (ls : List Lexeme) :
    ReadsAs (levels.foldl (chain rounds) operand ls) (levels.foldl (chain rounds) operand' ls) := by
  induction levels generalizing operand operand' with
  | nil => exact h ls
  | cons ops levels ih => exact ih fun ls => (h ls).bind fun _ => chainRest_readsAs ops h _ _ _

theorem binaryRule_readsAs (ls : List Lexeme) :
    ReadsAs (binaryRule g s ls) (binaryRule g' (s.withRoom n) ls) :=
  foldl_chain_readsAs _ _ (unaryRule_readsAs hg hn) ls

omit hg hn in
theorem shortChainRest_readsAs (mark : String) (op : ShortCircuit) {operand operand' : Reader Expr}
    (h : ∀ ls, ReadsAs (operand ls) (operand' ls)) (fuel : Nat) (e : Expr) (ls : List Lexeme) :
    ReadsAs (shortChainRest mark op operand fuel e ls)
      (shortChainRest mark op operand' fuel e ls) := by
  induction fuel generalizing e ls with
  | zero => exact .same _
  | succ fuel ih => exact .ite ((h _).bind fun _ => ih _ _) (.same _)

theorem shortCircuitRule_readsAs (ls : List Lexeme) :
    ReadsAs (shortCircuitRule g s ls) (shortCircuitRule g' (s.withRoom n) ls) := by
  have hoperand := binaryRule_readsAs hg hn
  refine (hoperand ls).bind fun p => .ite ?_ ?_
  · exact (shortChainRest_readsAs _ _ hoperand _ _ _).bind fun _ => .same _
  · refine (shortChainRest_readsAs _ _ hoperand _ _ _).bind fun p => .bind ?_ fun _ => .same _
    refine shortChainRest_readsAs _ _ (fun ls => ?_) _ _ _
    exact (hoperand ls).bind fun _ => shortChainRest_readsAs _ _ hoperand _ _ _

theorem conditionalRule_readsAs (ls : List Lexeme) :
    ReadsAs (conditionalRule g s ls) (conditionalRule g' (s.withRoom n) ls) := by
  refine (shortCircuitRule_readsAs hg hn ls).bind fun p => .ite ?_ (.same _)
  refine (within_readsAs hn branchWeight hg.assignment _).bind fun p => .bind (.same _) fun ls => ?_
  exact (within_readsAs hn branchWeight hg.assignment _).bind fun _ => .same _

theorem assignmentRest_readsAs (ls : List Lexeme) :
    ReadsAs (assignmentRest g s ls) (assignmentRest g' (s.withRoom n) ls) := by
  refine (conditionalRule_readsAs hg hn ls).bind fun p => .ite ?_ ?_
  · exact .bind (.same _) fun t => (hg.assignment hn _).bind fun _ => .same _
  · cases updateOperators.find? fun o => nextIsMark p.2 o.1 with
    | none => exact .same _
    | some o => exact .bind (.same _) fun t => (hg.assignment hn _).bind fun _ => .same _

theorem assignmentRule_readsAs (ls : List Lexeme) :
    ReadsAs (assignmentRule g s ls) (assignmentRule g' (s.withRoom n) ls) := by
  unfold assignmentRule
  refine .ite (.ite (.same _) ((hg.assignment hn _).bind fun _ => .same _)) ?_
  have h := arrowFunction?_readsAs hg hn ls
  generalize arrowFunction? g s ls = x at h ⊢
  generalize arrowFunction? g' (s.withRoom n) ls = y at h ⊢
  cases h with
  | some h => exact h.map _
  | none => exact assignmentRest_readsAs hg hn ls

/-! ## Statements -/

theorem blockRest_readsAs (ls : List Lexeme) :
    ReadsAs (blockRest g s ls) (blockRest g' (s.withRoom n) ls) :=
  (within_readsAs hn blockWeight
    (fun hn => statementsUntilBrace_readsAs hg hn _ []) ls).bind fun _ => .same _

theorem block_readsAs (ls : List Lexeme) :
    ReadsAs (block g s ls) (block g' (s.withRoom n) ls) :=
  .bind (.same _) fun _ => blockRest_readsAs hg hn _

theorem firstValue_readsAs (d : Declarator) (name : Name) (ls : List Lexeme) :
    ReadsAs (firstValue g s d name ls) (firstValue g' (s.withRoom n) d name ls) :=
  .ite ((hg.assignment hn _).bind fun _ => .same _) (.same _)

theorem bindingList_readsAs (d : Declarator) (fuel : Nat) (read : List (Name × Option Expr))
    (ls : List Lexeme) :
    ReadsAs (bindingList g s d fuel read ls) (bindingList g' (s.withRoom n) d fuel read ls) := by
  induction fuel generalizing read ls with
  | zero => exact .same _
  | succ fuel ih =>
      refine .bind (.same _) fun p => (firstValue_readsAs hg hn d _ _).bind fun p => ?_
      exact .ite (ih _ _) (.same _)

theorem declaration_readsAs (d : Declarator) (ls : List Lexeme) :
    ReadsAs (declaration g s d ls) (declaration g' (s.withRoom n) d ls) :=
  (bindingList_readsAs hg hn d _ _ ls).bind fun _ => .same _

theorem closedDeclaration_readsAs (d : Declarator) (ls : List Lexeme) :
    ReadsAs (closedDeclaration g s d ls) (closedDeclaration g' (s.withRoom n) d ls) :=
  (declaration_readsAs hg hn d ls).bind fun _ => .same _

theorem parenthesized_readsAs (ls : List Lexeme) :
    ReadsAs (parenthesized g s ls) (parenthesized g' (s.withRoom n) ls) :=
  .bind (.same _) fun _ => (expression_readsAs hg hn _).bind fun _ => .same _

theorem optionalUntil_readsAs (m : String) (ls : List Lexeme) :
    ReadsAs (optionalUntil g s m ls) (optionalUntil g' (s.withRoom n) m ls) :=
  .ite (.same _) ((expression_readsAs hg hn ls).bind fun _ => .same _)

theorem loopStart_readsAs (ls : List Lexeme) :
    ReadsAs (loopStart g s ls) (loopStart g' (s.withRoom n) ls) := by
  unfold loopStart
  cases ls.head?.bind declarator? with
  | some d => exact (declaration_readsAs hg hn d _).bind fun _ => .same _
  | none => exact (optionalUntil_readsAs hg hn _ _).bind fun _ => .same _

theorem loopRest_readsAs (ls : List Lexeme) :
    ReadsAs (loopRest g s ls) (loopRest g' (s.withRoom n) ls) := by
  refine .bind (.same _) fun ls => (loopStart_readsAs hg hn ls).bind fun p => ?_
  refine (optionalUntil_readsAs hg hn _ _).bind fun p => ?_
  refine (optionalUntil_readsAs hg hn _ _).bind fun p => ?_
  exact (hg.statement (s := inside s) hn _ _).bind fun _ => .same _

theorem whileRest_readsAs (ls : List Lexeme) :
    ReadsAs (whileRest g s ls) (whileRest g' (s.withRoom n) ls) :=
  (parenthesized_readsAs hg hn ls).bind fun _ =>
    (hg.statement (s := inside s) hn _ _).bind fun _ => .same _

theorem repeatRest_readsAs (ls : List Lexeme) :
    ReadsAs (repeatRest g s ls) (repeatRest g' (s.withRoom n) ls) :=
  (hg.statement (s := inside s) hn _ _).bind fun _ => .bind (.same _) fun _ =>
    (parenthesized_readsAs hg hn _).bind fun _ => .same _

theorem choiceRest_readsAs (ls : List Lexeme) :
    ReadsAs (choiceRest g s ls) (choiceRest g' (s.withRoom n) ls) :=
  (parenthesized_readsAs hg hn ls).bind fun _ => (hg.statement hn _ _).bind fun _ =>
    .ite ((hg.statement hn _ _).bind fun _ => .same _) (.same _)

theorem returned_readsAs (ls : List Lexeme) :
    ReadsAs (returned g s ls) (returned g' (s.withRoom n) ls) :=
  .ite (.same _) (.ite (.same _) ((expression_readsAs hg hn ls).bind fun _ => .same _))

theorem raised_readsAs (ls : List Lexeme) :
    ReadsAs (raised g s ls) (raised g' (s.withRoom n) ls) :=
  .ite (.same _) ((expression_readsAs hg hn ls).bind fun _ => .same _)

theorem handler_readsAs (ls : List Lexeme) :
    ReadsAs (handler g s ls) (handler g' (s.withRoom n) ls) :=
  .ite (.bind (.same _) fun _ => (block_readsAs hg hn _).bind fun _ => .same _) (.same _)

theorem finalizer_readsAs (ls : List Lexeme) :
    ReadsAs (finalizer g s ls) (finalizer g' (s.withRoom n) ls) :=
  .ite ((block_readsAs hg hn _).bind fun _ => .same _) (.same _)

theorem guardedRest_readsAs (ls : List Lexeme) :
    ReadsAs (guardedRest g s ls) (guardedRest g' (s.withRoom n) ls) :=
  (block_readsAs hg hn ls).bind fun _ => (handler_readsAs hg hn _).bind fun _ =>
    (finalizer_readsAs hg hn _).bind fun _ => .same _

theorem labelledRest_readsAs (name : Name) (ls : List Lexeme) :
    ReadsAs (labelledRest g s name ls) (labelledRest g' (s.withRoom n) name ls) := by
  refine .ite (.same _) (.bind ?_ fun _ => .same _)
  exact hg.statement (s := { s with labels := (name, startsLoop ls) :: s.labels }) hn false ls

theorem listedDeclaration_readsAs (ls : List Lexeme) :
    ReadsAs (listedDeclaration g s ls) (listedDeclaration g' (s.withRoom n) ls) := by
  unfold listedDeclaration
  have h := functionOrClass?_readsAs hg hn true ls
  generalize functionOrClass? g s true ls = x at h ⊢
  generalize functionOrClass? g' (s.withRoom n) true ls = y at h ⊢
  cases h with
  | some h => exact h.map _
  | none =>
      cases ls.head?.bind declarator? with
      | some d => exact closedDeclaration_readsAs hg hn d _
      | none => exact .same _

theorem unmarkedStatement_readsAs (ls : List Lexeme) :
    ReadsAs (unmarkedStatement g s ls) (unmarkedStatement g' (s.withRoom n) ls) := by
  unfold unmarkedStatement
  split
  · exact .ite (labelledRest_readsAs hg hn _ _) (.same _)
  · exact (expression_readsAs hg hn ls).bind fun _ => .same _

theorem plainStatement_readsAs (ls : List Lexeme) :
    ReadsAs (plainStatement g s ls) (plainStatement g' (s.withRoom n) ls) := by
  cases ls with
  | nil => exact .same _
  | cons l rest =>
      refine .ite ((blockRest_readsAs hg hn rest).map _) (.ite (.same _) ?_)
      refine .ite (closedDeclaration_readsAs hg hn _ rest) (.ite (choiceRest_readsAs hg hn rest) ?_)
      refine .ite (whileRest_readsAs hg hn rest) (.ite (repeatRest_readsAs hg hn rest) ?_)
      refine .ite (loopRest_readsAs hg hn rest) (.ite (returned_readsAs hg hn rest) ?_)
      refine .ite (raised_readsAs hg hn rest) (.ite (guardedRest_readsAs hg hn rest) ?_)
      refine .ite (.same _) (.ite (.same _) (.ite (.same _) (.ite (.same _) ?_)))
      exact unmarkedStatement_readsAs hg hn _

theorem statementRule_readsAs (listed : Bool) (ls : List Lexeme) :
    ReadsAs (statementRule g listed s ls) (statementRule g' listed (s.withRoom n) ls) :=
  .ite (listedDeclaration_readsAs hg hn ls) (plainStatement_readsAs hg hn ls)

theorem readStatements_readsAs (fuel : Nat) (read : List Stmt) (ls : List Lexeme) :
    ReadsAs (readStatements g s fuel read ls) (readStatements g' (s.withRoom n) fuel read ls) := by
  induction fuel generalizing read ls with
  | zero => exact .same _
  | succ fuel ih => exact .ite (.same _) ((hg.statement hn true ls).bind fun _ => ih _ _)

end Readers

/-! ## Programs -/

/-- Readers whose calls may nest deeper read the same. -/
theorem ofFuel_fits {m k : Nat} (h : m ≤ k) : (Grammar.ofFuel m).Fits (Grammar.ofFuel k) := by
  induction m generalizing k with
  | zero => exact ⟨fun _ _ => .tooDeep _, fun _ _ => .tooDeep _, fun _ _ _ => .tooDeep _⟩
  | succ m ih =>
      cases k with
      | zero => exact absurd h (Nat.not_succ_le_zero m)
      | succ k =>
          have hg := ih (Nat.le_of_succ_le_succ h)
          exact ⟨fun hn => within_readsAs hn readerWeight (assignmentRule_readsAs hg),
            fun hn => within_readsAs hn readerWeight (unaryRule_readsAs hg), fun hn listed =>
            within_readsAs hn readerWeight fun hn => statementRule_readsAs hg hn listed⟩

theorem programOf_readsAs {room room' : Nat} (h : room ≤ room') (ls : List Lexeme) :
    ReadsAs (programOf room ls) (programOf room' ls) :=
  (readStatements_readsAs (s := { rounds := ls.length + 1, room := room })
    (ofFuel_fits (Nat.succ_le_succ h)) h _ [] ls).bind fun _ => .same _

/-- A source is read alike with more of the stack, unless there was too little of it. -/
theorem parse_readsAs {room room' : Nat} (h : room ≤ room') (source : String) :
    ReadsAs (parse room source) (parse room' source) := by
  unfold parse
  by_cases hroom : room < programWeight
  · rw [if_pos hroom]
    exact .tooDeep _
  · rw [if_neg hroom, if_neg fun hlt => hroom (Nat.lt_of_le_of_lt h hlt)]
    cases Lexeme.ofSource source.toList with
    | none => exact .same _
    | some ls => exact programOf_readsAs (Nat.sub_le_sub_right h _) ls

end ScriptHost.Script

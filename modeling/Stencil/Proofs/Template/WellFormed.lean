import Stencil.Proofs.Expr.Accounting
import Stencil.Proofs.Template.Accepting
/-!
# Exactly the well-formed templates are accepted

No problem is noticed in tokens if and only if the grammar forms nodes of them whose named parts
have names of their own, and these nodes are the template. Nothing in such a template stands for a
source that was passed over.
-/

namespace Stencil

open Template Template.Parser

/-- What a source says has nothing malformed in it. -/
theorem Statement.Reads.intact {head : Statement} {source : List Char} {expr : Expr}
    (reads : head.Reads source expr) : ∀ part ∈ expr.walk, part.isMalformed = false := by
  intro part member
  exact Expr.isMalformed_of_wellPlaced ((Expr.Parser.parse_accounts reads).2 part member).1

namespace Template.Parser

theorem intact_of_expression {node : Node} {value : Expr} (wellFormed : node.isMalformed = false)
    (expression : node.expression? = some value)
    (intact : ∀ part ∈ value.walk, part.isMalformed = false) : node.Intact := by
  refine ⟨wellFormed, ?_⟩
  rw [expression]
  rintro expr ⟨⟩
  exact intact

mutual

/-- Nodes that the grammar forms have nothing malformed in them. -/
theorem intact_of_forms : ∀ {depth : Nat} {tokens : List Token} {nodes : List Node},
    Forms depth tokens nodes → ∀ node ∈ Node.walkAll nodes, node.Intact
  | _, _, _, .nil => fun node member => nomatch member
  | _, _, _, .text plain later => by
    rw [Node.walkAll, Node.walk, List.forall_mem_append, List.forall_mem_singleton]
    exact ⟨⟨rfl, fun _ absurd => nomatch absurd⟩, intact_of_forms later⟩
  | _, _, _, .comment tag later => intact_of_forms later
  | _, _, _, .output tag reads later => by
    rw [Node.walkAll, Node.walk, List.forall_mem_append, List.forall_mem_singleton]
    refine ⟨intact_of_expression rfl rfl fun part member => ?_, intact_of_forms later⟩
    exact Expr.isMalformed_of_wellPlaced ((Expr.Parser.parse_accounts reads).2 part member).1
  | _, _, _, .assignment opens header free reads later => by
    rw [Node.walkAll, Node.walk, List.forall_mem_append, List.forall_mem_singleton]
    exact ⟨intact_of_expression rfl rfl reads.intact, intact_of_forms later⟩
  | _, _, _, .choice opens room reads branches later => by
    rw [Node.walkAll, List.forall_mem_append]
    exact ⟨intact_of_branches branches reads.intact, intact_of_forms later⟩
  | _, _, _, .loop opens room header free reads inside closes bare later => by
    rw [Node.walkAll, Node.walk, List.forall_mem_append, List.forall_mem_cons]
    exact ⟨⟨intact_of_expression rfl rfl reads.intact, intact_of_forms inside⟩,
      intact_of_forms later⟩
  | _, _, _, .block opens room header inside closes matching later => by
    rw [Node.walkAll, Node.walk, List.forall_mem_append, List.forall_mem_cons]
    exact ⟨⟨⟨rfl, fun _ absurd => nomatch absurd⟩, intact_of_forms inside⟩, intact_of_forms later⟩

theorem intact_of_branches : ∀ {depth : Nat} {head : Statement} {condition : Expr}
    {tokens : List Token} {node : Node}, Branches depth head condition tokens node →
      (∀ part ∈ condition.walk, part.isMalformed = false) → ∀ inner ∈ node.walk, inner.Intact
  | _, _, _, _, _, .single forms closes bare, intact => by
    rw [Node.walk, List.forall_mem_cons]
    exact ⟨intact_of_expression rfl rfl intact, intact_of_forms forms⟩
  | _, _, _, _, _, .otherwise forms continues bareMiddle formsOther closes bare, intact => by
    rw [Node.walk, List.forall_mem_cons, List.forall_mem_append]
    exact ⟨intact_of_expression rfl rfl intact, intact_of_forms forms, intact_of_forms formsOther⟩
  | _, _, _, _, _, .further forms continues room reads branches, intact => by
    rw [Node.walk, List.forall_mem_cons, List.forall_mem_append, Node.walkAll, Node.walkAll,
      List.append_nil]
    exact ⟨intact_of_expression rfl rfl intact, intact_of_forms forms,
      intact_of_branches branches reads.intact⟩

end

end Template.Parser

/-- A template is accepted if and only if it is well-formed, and then it is the one that its tokens
form. -/
theorem parse_iff_forms (tokens : List Token) :
    (∀ nodes, (parse tokens).errors = [] ∧ (parse tokens).template.children = nodes ↔
      Forms 0 tokens nodes ∧ (Node.blockNamesAll nodes).Nodup) ∧
    ((parse tokens).errors = [] ↔
      ∃ nodes, Forms 0 tokens nodes ∧ (Node.blockNamesAll nodes).Nodup) ∧
    ((parse tokens).errors = [] → ∀ node ∈ (parse tokens).template.walk, node.Intact) := by
  refine ⟨fun nodes => ⟨?_, ?_⟩, ⟨fun clean => ⟨_, forms_of_parse clean⟩, ?_⟩, fun clean => ?_⟩
  · rintro ⟨clean, rfl⟩
    exact forms_of_parse clean
  · rintro ⟨forms, distinct⟩
    exact parse_of_forms forms distinct
  · rintro ⟨nodes, forms, distinct⟩
    exact (parse_of_forms forms distinct).1
  · exact intact_of_forms (forms_of_parse clean).1

/-- A choice with a further condition and another branch, around an assignment and a loop. -/
def nestedTemplate : String :=
  "\x7b% if a %\x7d\x7b% set b = 1 %\x7d\x7b% elif c %\x7d\x7b% else %\x7d" ++
    "\x7b% for d in e %\x7d\x7b\x7b d \x7d\x7d\x7b% endfor %\x7d\x7b% endif %\x7d"

theorem parse_iff_forms_nested : ∃ tokens,
    tokenize {} nestedTemplate = .ok tokens ∧ (parse tokens).errors = [] ∧
      Forms 0 tokens (parse tokens).template.children ∧
        ∀ node ∈ (parse tokens).template.walk, node.Intact := by
  cases scanned : tokenize {} nestedTemplate with
  | error problem =>
      have scans : (tokenize {} nestedTemplate).isOk = true := by decide +kernel
      rw [scanned] at scans
      cases scans
  | ok tokens =>
      have clean : (tokenize {} nestedTemplate).toOption.map (fun tokens => (parse tokens).errors) =
          some [] := by
        decide +kernel
      rw [scanned] at clean
      have none : (parse tokens).errors = [] := Option.some.inj clean
      have accepted := parse_iff_forms tokens
      exact ⟨tokens, rfl, none, ((accepted.1 _).mp ⟨none, rfl⟩).1, accepted.2.2 none⟩

end Stencil

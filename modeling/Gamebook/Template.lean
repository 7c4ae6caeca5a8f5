/-!
# Templates

A template is text with placeholders `{expression}`. `Template.parse` cuts it into literal pieces
and expressions: an opening brace starts a placeholder if a closing brace follows before the end
of its line, and the first closing brace ends it. `Template.expand` replaces each expression, from
left to right, by what a stateful evaluation gives for it; the results are not looked at again.

* `Template.source_parse` : the pieces joined together are the template.
* `Template.expand` : evaluation in the order of the text.
-/

namespace Gamebook

namespace Template

/-- A part of a template. -/
inductive Piece where
  | literal (chars : List Char)
  | expression (chars : List Char)
  deriving Repr, DecidableEq

/-- The part as it is written in the template. -/
def Piece.source : Piece → List Char
  | literal chars => chars
  | expression chars => '{' :: chars ++ ['}']

/-- Splits at the first closing brace, if one comes before the end of the line. -/
def closing? : List Char → Option (List Char × List Char)
  | [] => none
  | '}' :: rest => some ([], rest)
  | '\n' :: _ => none
  | c :: rest => (closing? rest).map (fun (expression, after) => (c :: expression, after))

/-- What follows the closing brace is shorter than what followed the opening one. -/
theorem length_lt_of_closing? {cs expression after : List Char}
    (h : closing? cs = some (expression, after)) : after.length < cs.length := by
  induction cs generalizing expression after with
  | nil => simp [closing?] at h
  | cons c rest ih =>
    unfold closing? at h
    split at h
    · simp at h
    · simp_all
    · simp at h
    · next heq =>
      injection heq with h₁ h₂
      subst h₁ h₂
      rw [Option.map_eq_some_iff] at h
      obtain ⟨⟨e, a⟩, he, hp⟩ := h
      injection hp with _ hp
      subst hp
      exact Nat.lt_succ_of_lt (ih he)

/-- Puts a character in front of the literal that a template begins with. -/
def consLiteral (c : Char) : List Piece → List Piece
  | .literal chars :: pieces => .literal (c :: chars) :: pieces
  | pieces => .literal [c] :: pieces

/-- The pieces of a template. -/
def parse : List Char → List Piece
  | [] => []
  | c :: rest =>
    if c = '{' then
      match _h : closing? rest with
      | some (expression, after) => .expression expression :: parse after
      | none => consLiteral c (parse rest)
    else consLiteral c (parse rest)
  termination_by cs => cs.length
  decreasing_by
    · have := length_lt_of_closing? _h
      simp only [List.length_cons]
      omega
    · simp
    · simp

/-- Splitting at the closing brace loses nothing else. -/
theorem eq_of_closing? {cs expression after : List Char}
    (h : closing? cs = some (expression, after)) : cs = expression ++ '}' :: after := by
  induction cs generalizing expression after with
  | nil => simp [closing?] at h
  | cons c rest ih =>
    unfold closing? at h
    split at h
    · simp at h
    · simp_all
    · simp at h
    · next heq =>
      injection heq with h₁ h₂
      subst h₁ h₂
      rw [Option.map_eq_some_iff] at h
      obtain ⟨⟨e, a⟩, he, hp⟩ := h
      injection hp with hp₁ hp₂
      subst hp₁ hp₂
      rw [ih he]
      rfl

/-- The characters that pieces stand for. -/
def source (pieces : List Piece) : List Char := pieces.flatMap Piece.source

theorem source_consLiteral (c : Char) (pieces : List Piece) :
    source (consLiteral c pieces) = c :: source pieces := by
  cases pieces with
  | nil => rfl
  | cons piece pieces => cases piece <;> rfl

/-- Cutting a template into pieces loses nothing. -/
theorem source_parse (cs : List Char) : source (parse cs) = cs := by
  fun_induction parse cs with
  | case1 => rfl
  | case2 rest expression after h ih =>
    rw [eq_of_closing? h]
    simp only [source, List.flatMap_cons, Piece.source] at ih ⊢
    simp [ih]
  | case3 rest h ih => rw [source_consLiteral, ih]
  | case4 c rest hc ih => rw [source_consLiteral, ih]

/-- Evaluates the expressions from left to right and joins the results with the literals. -/
def expandPieces {m : Type → Type} [Monad m] (eval : String → m String) :
    List Piece → m String
  | [] => pure ""
  | .literal chars :: rest => do
    let tail ← expandPieces eval rest
    pure (String.ofList chars ++ tail)
  | .expression chars :: rest => do
    let result ← eval (String.ofList chars)
    let tail ← expandPieces eval rest
    pure (result ++ tail)

/-- The template with every placeholder replaced by what `eval` gives for its expression. -/
def expand {m : Type → Type} [Monad m] (template : String) (eval : String → m String) : m String :=
  expandPieces eval (parse template.toList)

end Template

end Gamebook

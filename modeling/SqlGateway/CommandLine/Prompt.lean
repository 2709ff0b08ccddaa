/-!
# Prompts

The program may ask for a secret, and go on with the answer.  `Asking α` is a value for which
it asks once or not at all.  An answer is a text, or says why there is none.
-/

namespace SqlGateway.CommandLine

/-- What the program may ask for. -/
inductive Prompt where
  /-- The secret of an API key. -/
  | apiSecret
  /-- A token. -/
  | token
deriving DecidableEq, Repr

namespace Prompt

/-- The name of what is asked for, in messages. -/
def name : Prompt → String
  | .apiSecret => "API secret"
  | .token => "token"

/-- What is shown to the one who is asked. -/
def text : Prompt → String
  | .apiSecret => "API secret: "
  | .token => "Token: "

end Prompt

/-- An answer to a prompt, or why there is none. -/
abbrev Answer := Except String String

/-- A value for which the program asks at most once. -/
inductive Asking (α : Type) where
  /-- The value is known. -/
  | known (a : α)
  /-- The value hangs on the answer to a prompt. -/
  | ask (p : Prompt) (next : Answer → α)

namespace Asking

variable {α β : Type}

/-- A function of a value. -/
def map (f : α → β) : Asking α → Asking β
  | known a => .known (f a)
  | ask p next => .ask p fun answer => f (next answer)

/-- What is asked for, if anything is. -/
def prompt? : Asking α → Option Prompt
  | known _ => none
  | ask p _ => some p

/-- The value, where `answers` says what each prompt is answered. -/
def value (answers : Prompt → Answer) : Asking α → α
  | known a => a
  | ask p next => next (answers p)

@[simp] theorem prompt?_map (f : α → β) (x : Asking α) : (x.map f).prompt? = x.prompt? := by
  cases x <;> rfl

@[simp] theorem value_map (f : α → β) (answers : Prompt → Answer) (x : Asking α) :
    (x.map f).value answers = f (x.value answers) := by
  cases x <;> rfl

end Asking

end SqlGateway.CommandLine

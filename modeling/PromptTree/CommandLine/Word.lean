import PromptTree.Text.Digit
import PromptTree.Text.Split

/-!
The words of a command line: operands, options and the barrier behind which every word is an operand. An
option may be cut short as long as no other begins like that.
-/

namespace PromptTree.CommandLine

inductive Effect (σ : Type) where
  | help
  | flag (apply : σ → σ)
  /-- The option needs an argument, of which not every one is allowed. -/
  | argument (apply : String → σ → Option σ)

abbrev Options (σ : Type) := List (String × Effect σ)

inductive Word (σ : Type) where
  | operand (text : String)
  | barrier
  /-- An option, perhaps with an argument in the same word. -/
  | option (effect : Effect σ) (argument : Option String)
  /-- Short options in one word: a call for help, or a mistake. -/
  | shortOptions (areHelp : Bool)
  | unknown

structure Ambiguous where
  word : String
deriving DecidableEq, Repr

namespace Word

/-- The short options behind the one for help ask for help too: none takes an argument, and one that is not
known ends them. -/
def areHelp : List Char → Bool
  | [] => true
  | '-' :: _ | '=' :: _ => false
  | 'h' :: rest => areHelp rest
  | _ :: _ => true

/-- Digits, perhaps with a point among them, and at least one behind it. A line feed may follow. -/
def isNumber (cs : List Char) : Bool :=
  match Text.cutAt '.' (if cs.getLast? = some '\n' then cs.dropLast else cs) with
  | (digits, none) => !digits.isEmpty && digits.all Text.isDigit
  | (digits, some fraction) =>
    digits.all Text.isDigit && !fraction.isEmpty && fraction.all Text.isDigit

/-- What a word is that begins with a dash but is no option. -/
def withoutOption {σ : Type} (word : String) : Word σ :=
  match word.toList with
  | '-' :: rest => if isNumber rest || rest.contains ' ' then .operand word else .unknown
  | _ => .operand word

/-- The name of an option in a word, and the argument behind it. -/
def cut (word : String) : String × Option String :=
  let (name, argument) := Text.cutAt '=' word.toList
  (.ofList name, argument.map String.ofList)

/-- The options whose names begin like a name. -/
def candidates {σ : Type} (options : Options σ) (name : String) : List (Effect σ) :=
  (options.filter fun (full, _) => name.toList.isPrefixOf full.toList).map (·.2)

def of {σ : Type} (options : Options σ) (word : String) : Except Ambiguous (Word σ) :=
  match options.lookup word with
  | some effect => .ok (.option effect none)
  | none =>
    let (name, argument) := cut word
    match argument, options.lookup name with
    | some argument, some effect => .ok (.option effect (some argument))
    | _, _ =>
      match word.toList with
      | '-' :: '-' :: _ =>
        match candidates options name with
        | [] => .ok (withoutOption word)
        | [effect] => .ok (.option effect argument)
        | _ => .error ⟨word⟩
      | '-' :: 'h' :: rest => .ok (.shortOptions (areHelp rest))
      | ['-'] => .ok (.operand word)
      | _ => .ok (withoutOption word)

def ofAll {σ : Type} (options : Options σ) : List String → Except Ambiguous (List (Word σ))
  | [] => .ok []
  | "--" :: rest => .ok (.barrier :: rest.map .operand)
  | word :: rest => do
    let word ← of options word
    return word :: (← ofAll options rest)

end Word

inductive Reading (σ : Type) where
  | help
  | wrong
  /-- The only operand and the settings; `left` says whether any words are left over. -/
  | command (operand : String) (settings : σ) (left : Bool)

namespace Reading

/-- Reads the words of a command with one operand, given what has been read of it so far. -/
def resume {σ : Type} (settings : σ) (left : Bool) : Option String → List (Word σ) → Reading σ
  | none, [] => .wrong
  | some operand, [] => .command operand settings left
  | none, .operand text :: .barrier :: words => resume settings left (some text) words
  | none, .operand text :: words => resume settings left (some text) words
  | none, .barrier :: words => resume settings left none words
  | some operand, .operand _ :: words | some operand, .barrier :: words =>
    resume settings true (some operand) words
  | operand, .unknown :: words => resume settings true operand words
  | _, .shortOptions areHelp :: _ => if areHelp then .help else .wrong
  | _, .option .help none :: _ => .help
  | operand, .option (.flag apply) none :: words =>
    resume (apply settings) left operand words
  | operand, .option (.argument apply) (some argument) :: words
  | operand, .option (.argument apply) none :: .operand argument :: words =>
    match apply argument settings with
    | some settings => resume settings left operand words
    | none => .wrong
  | _, .option _ _ :: _ => .wrong

def ofWords {σ : Type} (options : Options σ) (settings : σ) (words : List String) : Reading σ :=
  match Word.ofAll options words with
  | .error _ => .wrong
  | .ok words => resume settings false none words

end Reading

end PromptTree.CommandLine

/-
Lamplighter.Console — the lines that a run prints.

* `Path` — the address of a block in a program, written `0/2/1`.
* `Remark` — something to say: in what tone, about which block, and the message.
* `Remark.text` — the remark as text, with a tag for its tone; `Console.paint` adds terminal colours.
* `Console.lines` — what is printed: the text, cut at its line breaks.
-/
import Lamplighter.Fault

namespace Lamplighter

/-! ## Addresses -/

/-- The address of a block: the index of each ancestor among its siblings, then its own. -/
abbrev Path := List Int

/-- An address as text; the root of the program is a lone slash. -/
def Path.text (path : Path) : String :=
  match path with
  | [] => "/"
  | _ => "/".intercalate (path.map (fun i => s!"{i}"))

/-! ## Colours -/

/-- The terminal colours and styles in use. -/
inductive Color where
  | blue
  | yellow
  | red
  | green
  | cyan
  | bold
  | reset
  deriving DecidableEq, Repr

namespace Color

/-- The name of a colour. -/
def name : Color → String
  | blue => "BLUE"
  | yellow => "YELLOW"
  | red => "RED"
  | green => "GREEN"
  | cyan => "CYAN"
  | bold => "BOLD"
  | reset => "RESET"

/-- All colours. -/
def all : List Color := [blue, yellow, red, green, cyan, bold, reset]

/-- The colour that a name stands for. -/
def ofName? (s : String) : Option Color := all.find? (fun c => c.name == s)

/-- The escape sequence that switches a terminal to a colour or style. -/
def code : Color → String
  | blue => "\x1b[94m"
  | yellow => "\x1b[93m"
  | red => "\x1b[91m"
  | green => "\x1b[92m"
  | cyan => "\x1b[96m"
  | bold => "\x1b[1m"
  | reset => "\x1b[0m"

end Color

/-- Where lines are printed: `plain` terminals show no colours. -/
structure Console where
  plain : Bool
  deriving DecidableEq, Repr, Inhabited

namespace Console

/-- Text in a colour. -/
def paint (console : Console) (text : String) (color : Color) (bold : Bool := false) : String :=
  if console.plain then text
  else (if bold then Color.bold.code else "") ++ color.code ++ text ++ Color.reset.code

end Console

/-! ## Remarks -/

/-- The tones of a remark. Steps, refusals and skips are about a block of the running program; the
others speak for the session. -/
inductive Tone where
  | step
  | refusal
  | skip
  | info
  | error
  | outcome (o : Outcome)
  deriving DecidableEq, Repr

namespace Tone

/-- The tag of a tone, which can be told apart without colours. -/
def tag : Tone → String
  | step => "[•]"
  | skip => "[?]"
  | refusal | error => "[!]"
  | info => "[i]"
  | outcome .win => "[✓]"
  | outcome .fail => "[!]"
  | outcome .cancelled | outcome .rejected => "[?]"

/-- The colour of a tone. -/
def color : Tone → Color
  | step => .blue
  | skip => .yellow
  | refusal | error => .red
  | info => .cyan
  | outcome .win => .green
  | outcome .fail => .red
  | outcome .cancelled | outcome .rejected => .yellow

/-- The tones that speak about a block. -/
def isAboutBlock : Tone → Bool
  | step | refusal | skip => true
  | _ => false

end Tone

/-- Something that a run says. `path` is the block that it speaks about. -/
structure Remark where
  tone : Tone
  message : String
  path : Path := []
  deriving DecidableEq, Repr

namespace Remark

/-- A line about a block: indented, tagged, and with the block's address unless it is the root. -/
def aboutBlock (tag message : String) (path : Path) : String :=
  let speaker := if path = [] then "Executor" else s!"Executor {path.text}"
  s!"  {tag} [{speaker}] {message}"

/-- A remark as text without colours. -/
def text (r : Remark) : String :=
  if r.tone.isAboutBlock then aboutBlock r.tone.tag r.message r.path
  else s!"{r.tone.tag} {r.message}"

end Remark

namespace Console

/-- The lines of a text. A line break ends a line, so a text with `n` of them has `n + 1` lines. -/
def lines (text : String) : List String := text.splitOn "\n"

/-- The text printed for a remark. A solved level is announced in bold. -/
def printed (console : Console) (r : Remark) : String :=
  console.paint r.text r.tone.color (r.tone = .outcome .win)

/-- The lines printed for a remark. -/
def write (console : Console) (r : Remark) : List String := lines (console.printed r)

end Console

end Lamplighter

/-!
# Character sources

A source hands out characters one at a time and lets its user look one character ahead. Both
requests may change the source, since either may have to fetch more input, and either may run into
a failure of the input; such a failure is reported by the request that met it and looks like the end
of the input to the user of the characters.

`CharSource.unread` is the view of a source: the characters it is going to hand out. The laws say
that a request for the next character takes the head of that list and that looking ahead leaves it
alone, so a loop over a source ends because the list gets shorter.
-/

namespace Delimited

/-- Why the bytes of a stream could not be turned into characters. -/
inductive StreamError where
  /-- The device below the stream refused to read, for the reason it gave. -/
  | device (reason : String)
  /-- The bytes are not the UTF-8 form of any text. -/
  | notUtf8
  deriving DecidableEq, Repr

/-- The text that reports a stream error. -/
def StreamError.message : StreamError → String
  | .device reason => reason
  | .notUtf8 => "stream did not contain valid UTF-8"

/-- The answer to one request for a character: the character, unless the input is over, the failure
that this very request met, and the source afterwards. -/
structure Pull (σ : Type) where
  char : Option Char
  failure : Option StreamError := none
  source : σ

/-- A sequential source of characters. -/
class CharSource (σ : Type) where
  /-- Take the next character. -/
  next : σ → Pull σ
  /-- Look at the next character without taking it. -/
  peek : σ → Pull σ
  /-- The characters not yet taken. -/
  unread : σ → List Char
  /-- The character taken is the first unread one. -/
  char_next : ∀ source, (next source).char = (unread source).head?
  /-- Taking a character leaves the unread ones behind it. -/
  unread_next : ∀ source, unread (next source).source = (unread source).tail
  /-- The character seen is the first unread one. -/
  char_peek : ∀ source, (peek source).char = (unread source).head?
  /-- Looking ahead takes nothing. -/
  unread_peek : ∀ source, unread (peek source).source = unread source

namespace CharSource

variable {σ : Type} [CharSource σ]

attribute [simp] char_next unread_next char_peek unread_peek

/-- Taking a character shortens the unread text. -/
theorem length_unread_next_lt {source : σ} {char : Char} (h : (next source).char = some char) :
    (unread (next source).source).length < (unread source).length := by
  rw [char_next] at h
  rw [unread_next]
  cases hu : unread source with
  | nil => simp [hu] at h
  | cons _ _ => simp

/-- A request for a character never lengthens the unread text. -/
theorem length_unread_next_le (source : σ) :
    (unread (next source).source).length ≤ (unread source).length := by
  simp

end CharSource

end Delimited

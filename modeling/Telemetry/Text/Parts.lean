/-!
What marks divide a text into, be it octets or characters.
-/

namespace Telemetry.Parts

variable {α : Type}

/-- The parts between the marks, one more than there are marks. -/
def split (isMark : α → Bool) : List α → List (List α)
  | [] => [[]]
  | a :: rest =>
    if isMark a then [] :: split isMark rest
    else
      match split isMark rest with
      | [] => [[a]]
      | first :: more => (a :: first) :: more

/-- The text before the first mark, and the text after it if it is there. -/
def divide (isMark : α → Bool) (text : List α) : List α × Option (List α) :=
  match text.dropWhile (!isMark ·) with
  | [] => (text, none)
  | _ :: after => (text.takeWhile (!isMark ·), some after)

/-- The text after the last mark, or all of it. -/
def afterLast (isMark : α → Bool) (text : List α) : List α :=
  (text.reverse.takeWhile (!isMark ·)).reverse

/-- The text without what is dropped at its end. -/
def trimEnd (drops : α → Bool) (text : List α) : List α :=
  (text.reverse.dropWhile drops).reverse

/-- The text without what is dropped at its ends. -/
def trim (drops : α → Bool) (text : List α) : List α :=
  trimEnd drops (text.dropWhile drops)

end Telemetry.Parts

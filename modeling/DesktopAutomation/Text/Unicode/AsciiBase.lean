/-!
The ASCII letter at the head of a letter's canonical decomposition, Unicode 17. All other
characters above ASCII decompose to no letter, digit or separator of ASCII.
-/

namespace DesktopAutomation.Text.Unicode

/-- Rows of neighbouring characters, each with its base letter; `?` stands for none. -/
def asciiBaseRows : List (Nat × String) := [
  (0xc0, "AAAAAA?CEEEEIIII?NOOOOO??UUUUY??aaaaaa?ceeeeiiii?nooooo??uuuuy?y"),
  (0x100, "AaAaAaCcCcCcCcDd??EeEeEeEeEeGgGgGgGgHh??IiIiIiIiI???JjKk?LlLlLl?"),
  (0x140, "???NnNnNn???OoOoOo??RrRrRrSsSsSsSsTtTt??UuUuUuUuUuUuWwYyYZzZzZz"),
  (0x1a0, "Oo"),
  (0x1af, "Uu"),
  (0x1cd, "AaIiOoUuUuUuUuUu?AaAa????GgKkOoOo??j???Gg??NnAa????AaAaEeEeIiIiO"),
  (0x20d, "oOoRrRrUuUuSsTt??Hh??????AaEeOoOoOoOoYy"),
  (0x1e00, "AaBbBbBbCcDdDdDdDdDdEeEeEeEeEeFfGgHhHhHhHhHhIiIiKkKkKkLlLlLlLlMm"),
  (0x1e40, "MmMmNnNnNnNnOoOoOoOoPpPpRrRrRrRrSsSsSsSsSsTtTtTtTtUuUuUuUuUuVvVv"),
  (0x1e80, "WwWwWwWwWwXxXxYyZzZzZzhtwy??????AaAaAaAaAaAaAaAaAaAaAaAaEeEeEeEe"),
  (0x1ec0, "EeEeEeEeIiIiOoOoOoOoOoOoOoOoOoOoOoOoUuUuUuUuUuUuUuYyYyYyYy"),
  (0x212a, "KA")]

/-- The ASCII characters of a character's canonical decomposition: the character itself below 128,
otherwise its base letter, if it has one.
-/
def asciiBase? (c : Char) : Option Char :=
  if c.toNat < 128 then
    some c
  else
    asciiBaseRows.findSome? fun row =>
      if row.1 ≤ c.toNat then
        (row.2.toList[c.toNat - row.1]?).filter (· != '?')
      else
        none

end DesktopAutomation.Text.Unicode

set_option autoImplicit false

namespace DocFilter.Text

/-- The pieces of a text between the occurrences of a separating character, at least one. -/
def pieces (separator : Char) : List Char → List (List Char)
  | [] => [[]]
  | c :: rest =>
      if c = separator then [] :: pieces separator rest
      else match pieces separator rest with
        | [] => [[c]]
        | piece :: others => (c :: piece) :: others

def dotted (parts : List (List Char)) : String :=
  String.ofList (['.'].intercalate parts)

end DocFilter.Text

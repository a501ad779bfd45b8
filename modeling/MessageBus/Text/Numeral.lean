namespace MessageBus.Text

/-- What may follow the digits of a number: nothing, or an exponent. -/
def isExponent : List Char → Bool
  | [] => true
  | e :: cs =>
    let digits := match cs with
      | '+' :: rest => rest
      | '-' :: rest => rest
      | cs => cs
    (e == 'e' || e == 'E') && !digits.isEmpty && digits.all Char.isDigit

/-- Whether a text spells a floating-point number: digits with at most one point among or around
them and perhaps an exponent, or a word for infinity or for no number; a sign may come first. -/
def isNumeral (cs : List Char) : Bool :=
  let cs := match cs with
    | '+' :: rest => rest
    | '-' :: rest => rest
    | cs => cs
  let word := String.ofList (cs.map Char.toLower)
  if word == "inf" || word == "infinity" || word == "nan" then true
  else
    match cs.takeWhile Char.isDigit, cs.dropWhile Char.isDigit with
    | whole, '.' :: rest =>
      !(whole.isEmpty && (rest.takeWhile Char.isDigit).isEmpty) &&
        isExponent (rest.dropWhile Char.isDigit)
    | whole, rest => !whole.isEmpty && isExponent rest

end MessageBus.Text

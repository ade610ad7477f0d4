import ServiceStubs.Json.Record

/-!
# Checking a document of any kind

Here every value counts: strings must be proper text, numbers must be in range, and containers
nest at most so deep.
-/

namespace ServiceStubs.Json

/-- How many containers may be open at once. -/
def depthLimit : Nat := 127

/-- Checks the members of an object, up to and with its closing brace. -/
def checkMembers (check : Reader Unit) : Nat → Bool → Reader Unit
  | 0, _, s => failAfter .endInObject s
  | fuel + 1, first, s => do
    let (more, s) ← nextKey first s
    if more then
      let (_, s) ← readStringBody s
      let s ← readColon s
      let (_, s) ← check s
      checkMembers check fuel false s
    else .ok ((), s.drop 1)

/-- Checks one value, in which so many containers may still be opened. -/
def checkValue : Nat → Reader Unit
  | depth, s =>
    match skipBlanks s with
    | [] => failAfter .endInValue []
    | c :: rest =>
      if c = 'n' then (readIdent ['u', 'l', 'l'] rest).map fun r => ((), r)
      else if c = 't' then (readIdent ['r', 'u', 'e'] rest).map fun r => ((), r)
      else if c = 'f' then (readIdent ['a', 'l', 's', 'e'] rest).map fun r => ((), r)
      else if c = '-' then (Number.read false rest).map fun (_, r) => ((), r)
      else if c.isDigit then (Number.read true (c :: rest)).map fun (_, r) => ((), r)
      else if c = '"' then (readStringBody rest).map fun (_, r) => ((), r)
      else if c = '[' then
        match depth with
        | 0 => failAfter .tooDeep (c :: rest)
        | d + 1 =>
          (readItems (checkValue d) (rest.length + 1) true rest).map fun (_, r) => ((), r)
      else if c = '\x7b' then
        match depth with
        | 0 => failAfter .tooDeep (c :: rest)
        | d + 1 => checkMembers (checkValue d) (rest.length + 1) true rest
      else failAfter .expectedValue (c :: rest)

/-- Checks a whole text. -/
def checkDocument (text : String) : Except Error Unit :=
  readDocument (checkValue depthLimit) text

end ServiceStubs.Json

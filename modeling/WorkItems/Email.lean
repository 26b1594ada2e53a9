import WorkItems.Pattern.Reader
/-!
# E-mail addresses

The form of address that `email` fields accept is a pattern: a local part and a domain of at least
two labels. It is written out as what its text is read as, so that the text is not read again for
each address.
-/

namespace WorkItems.Email

/-- The pattern of addresses as a text. -/
def formText : String :=
  "^[A-Za-z0-9._%+\\-]+@[A-Za-z0-9](?:[A-Za-z0-9\\-]*[A-Za-z0-9])?" ++
    "(?:\\.[A-Za-z0-9](?:[A-Za-z0-9\\-]*[A-Za-z0-9])?)*\\.[A-Za-z]\x7b2,\x7d$"

def letters : CharSet := ⟨[(0x41, 0x5A), (0x61, 0x7A)]⟩

def alnums : CharSet := ⟨[(0x30, 0x39), (0x41, 0x5A), (0x61, 0x7A)]⟩

/-- The characters of a local part. -/
def localChars : CharSet :=
  ⟨[(0x25, 0x25), (0x2B, 0x2B), (0x2D, 0x2E), (0x30, 0x39), (0x41, 0x5A), (0x5F, 0x5F),
    (0x61, 0x7A)]⟩

/-- The characters inside of a label. -/
def labelChars : CharSet := ⟨[(0x2D, 0x2D), (0x30, 0x39), (0x41, 0x5A), (0x61, 0x7A)]⟩

/-- What may follow the first character of a label. -/
def labelRest : Pattern :=
  .repeated (.seq (.repeated (.set labelChars) 0 none) (.set alnums)) 0 (some 1)

/-- A label with a dot in front of it. -/
def furtherLabel : Pattern := .seqs [.set (.singleton '.'), .set alnums, labelRest]

/-- The pattern of addresses. -/
def form : Pattern :=
  .seqs [.look .textStart, .repeated (.set localChars) 1 none, .set (.singleton '@'), .set alnums,
    labelRest, .repeated furtherLabel 0 none, .set (.singleton '.'),
    .repeated (.set letters) 2 none, .look .textEnd]

/-- Whether a text is an e-mail address. -/
def isValid (s : String) : Bool := form.occursIn s

end WorkItems.Email

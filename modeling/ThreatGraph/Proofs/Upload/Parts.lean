import ThreatGraph.Proofs.Text.Form
import ThreatGraph.Upload

/-!
# The parts of an upload, read back

The head of a part names a field and, if the part carries a file, the file.  A name of a field that
has to be encoded is escaped as in a URL, and a name of a file has a backslash before each of the
characters that would break the head.

* `FormEntry.read?` reads a part: the names in its head, and its content.
* `FormEntry.read?_part` says that a part is read as the field, the file and the content that it was
  made of, whatever characters are in the names.
-/

set_option autoImplicit false

namespace ThreatGraph

/-- What a part says: the name of a field, the name of a file if there is one, and the content. -/
structure FormEntry where
  name : String
  fileName : Option String
  content : List UInt8
  deriving DecidableEq, Repr, Inhabited

namespace FormEntry

/-! ## Reading

The reader takes the head of a part as a service does, and knows nothing of how it is written.  It
looks for a name in quotation marks or in the encoded form, and for a file behind it. -/

/-- The text in front of the quotation mark that ends a list.  A character after a backslash stands
for itself. -/
def readQuoted? : List Char → Option (List Char)
  | [] => none
  | '"' :: rest => if rest = [] then some [] else none
  | '\\' :: c :: rest => (readQuoted? rest).map (c :: ·)
  | c :: rest => (readQuoted? rest).map (c :: ·)

/-- The name of a file in the rest of a head, if there is a rest. -/
def readFileName? (cs : List Char) : Option (Option String) :=
  if cs = [] then some none
  else match afterStart? "; filename=\"".toList cs with
    | some quoted => (readQuoted? quoted).map fun name => some (String.ofList name)
    | none => none

/-- The name of a field at the start of a list, and what comes after it.  An encoded name ends with
the list, or before a semicolon and a space. -/
def readName? (cs : List Char) : Option (String × List Char) :=
  match afterStart? "name=\"".toList cs with
  | some quoted =>
    match splitFirst '"' quoted with
    | (name, some rest) => some (String.ofList name, rest)
    | (_, none) => none
  | none =>
    match afterStart? "name*=utf-8''".toList cs with
    | some encoded =>
      match splitFirst ' ' encoded with
      | (name, none) => some (String.ofList (decodeLossy (percentDecode name)), [])
      | (name, some rest) =>
        some (String.ofList (decodeLossy (percentDecode name.dropLast)), ';' :: ' ' :: rest)
    | none => none

/-- What a part says, if it is a part of a form. -/
def read? (part : Part) : Option FormEntry := do
  let names ← afterStart? "Content-Disposition: form-data; ".toList part.head.toList
  let (name, rest) ← readName? names
  let fileName ← readFileName? rest
  some ⟨name, fileName, part.content⟩

/-- The part that says something. -/
def part (entry : FormEntry) : Part :=
  ⟨Upload.partHead entry.name entry.fileName, entry.content⟩

/-! ## Names of files

The characters that would end a quoted name or begin an escape get a backslash in front, and so do
line breaks.  After a backslash the reader takes any character as it is, so it need not know which
characters these are. -/

theorem readQuoted?_cons {c : Char} (hquote : c ≠ '"') (hbackslash : c ≠ '\\') (rest : List Char) :
    readQuoted? (c :: rest) = (readQuoted? rest).map (c :: ·) := by
  rw [readQuoted?]
  · exact hquote
  · intro _ _ h
    exact absurd h hbackslash

/-- A character of a name is read from the one or two that it is written as. -/
theorem readQuoted?_escapeFileChar (c : Char) (rest : List Char) :
    readQuoted? (Upload.escapeFileChar c ++ rest) = (readQuoted? rest).map (c :: ·) := by
  rw [Upload.escapeFileChar]
  split
  · rfl
  · next hplain =>
    have hne : ∀ d ∈ "\\\"\r\n".toList, c ≠ d := by
      rintro d hd rfl
      exact hplain (List.contains_iff_mem.2 hd)
    exact readQuoted?_cons (hne '"' (by decide)) (hne '\\' (by decide)) rest

/-- A quoted name is read as the name. -/
theorem readQuoted?_escape (cs : List Char) :
    readQuoted? (cs.flatMap Upload.escapeFileChar ++ ['"']) = some cs := by
  induction cs with
  | nil => rfl
  | cons c cs ih =>
    rw [List.flatMap_cons, List.append_assoc, readQuoted?_escapeFileChar, ih]
    rfl

/-- The name of a file in the head of a part. -/
def fileNameText (fileName : Option String) : String :=
  match fileName with
  | some file =>
    "; filename=\"" ++ String.ofList (file.toList.flatMap Upload.escapeFileChar) ++ "\""
  | none => ""

/-- The name of a file is read, or none where there is none. -/
theorem readFileName?_text (fileName : Option String) :
    readFileName? (fileNameText fileName).toList = some fileName := by
  cases fileName with
  | none => rfl
  | some file =>
    have htext : (fileNameText (some file)).toList = "; filename=\"".toList ++
        (file.toList.flatMap Upload.escapeFileChar ++ ['"']) := by
      simp [fileNameText]
    rw [htext, readFileName?, if_neg (by simp), afterStart?_append]
    simp [readQuoted?_escape]

/-! ## Names of fields

A name is sent in quotation marks if none of its characters has to be escaped, and else in the
encoded form.  That form has neither a space nor a quotation mark, and so it is seen where it
ends. -/

/-- An encoded name has neither spaces nor quotation marks. -/
theorem not_mem_encoded {c : Char} (hc : c = ' ' ∨ c = '"') (cs : List Char) :
    c ∉ percentEncode Upload.escapesInName cs := by
  intro hmem
  rcases mem_percentEncode hmem with ⟨-, hplain⟩ | hpercent | hhex <;> rcases hc with rfl | rfl
  · exact absurd hplain (by decide)
  · exact absurd hplain (by decide)
  · exact absurd hpercent (by decide)
  · exact absurd hpercent (by decide)
  · exact absurd hhex (by decide)
  · exact absurd hhex (by decide)

/-- An encoded name is decoded as the name. -/
theorem decode_encoded (name : String) :
    String.ofList (decodeLossy (percentDecode (percentEncode Upload.escapesInName name.toList))) =
      name := by
  rw [percentDecode_percentEncode (by decide), decodeLossy_utf8Bytes, String.ofList_toList]

/-- A name in quotation marks is read up to the second of them. -/
theorem readName?_quoted {name : List Char} (h : '"' ∉ name) (rest : List Char) :
    readName? ("name=\"".toList ++ (name ++ '"' :: rest)) = some (String.ofList name, rest) := by
  rw [readName?, afterStart?_append]
  simp only [splitFirst_append h]

/-- An encoded name is not taken for a quoted one. -/
theorem afterStart?_encoded (cs : List Char) :
    afterStart? "name=\"".toList ("name*=utf-8''".toList ++ cs) = none := rfl

/-- The text of a field name is read as the name, whatever is said of a file behind it. -/
theorem readName?_text (name : String) (fileName : Option String) :
    readName? ((Upload.nameText name).toList ++ (fileNameText fileName).toList) =
      some (name, (fileNameText fileName).toList) := by
  rw [Upload.nameText]
  split
  · next hplain =>
    have hquote : '"' ∉ name.toList := by
      rw [← hplain, String.toList_ofList]
      exact not_mem_encoded (.inr rfl) _
    have htext : ("name=\"" ++ name ++ "\"").toList ++ (fileNameText fileName).toList =
        "name=\"".toList ++ (name.toList ++ '"' :: (fileNameText fileName).toList) := by
      simp
    rw [htext, readName?_quoted hquote, String.ofList_toList]
  · have hspace := not_mem_encoded (.inl rfl) name.toList
    generalize hencoded : percentEncode Upload.escapesInName name.toList = encoded at hspace ⊢
    have hname : String.ofList (decodeLossy (percentDecode encoded)) = name :=
      hencoded ▸ decode_encoded name
    have htext : ("name*=utf-8''" ++ String.ofList encoded).toList ++
        (fileNameText fileName).toList =
          "name*=utf-8''".toList ++ (encoded ++ (fileNameText fileName).toList) := by
      simp
    rw [htext, readName?, afterStart?_encoded, afterStart?_append]
    dsimp only
    cases fileName with
    | none =>
      have hnone : (fileNameText none).toList = [] := rfl
      rw [hnone, List.append_nil, splitFirst_of_not_mem hspace]
      simp only [hname]
    | some file =>
      -- The semicolon before the space is not a part of the name.
      obtain ⟨rest, hrest⟩ : ∃ rest, (fileNameText (some file)).toList = ';' :: ' ' :: rest :=
        ⟨_, by simp [fileNameText]; rfl⟩
      have hcut : encoded ++ ';' :: ' ' :: rest = (encoded ++ [';']) ++ ' ' :: rest := by simp
      rw [hrest, hcut, splitFirst_append (by simp [hspace])]
      simp only [List.dropLast_concat, hname]

theorem partHead_eq (name : String) (fileName : Option String) :
    Upload.partHead name fileName =
      "Content-Disposition: form-data; " ++ Upload.nameText name ++ fileNameText fileName := rfl

/-- **A part, read back.**  A part says the names and the content that it was made of. -/
theorem read?_part (entry : FormEntry) : read? entry.part = some entry := by
  have hhead : entry.part.head.toList = "Content-Disposition: form-data; ".toList ++
      ((Upload.nameText entry.name).toList ++ (fileNameText entry.fileName).toList) := by
    rw [part, partHead_eq, String.toList_append, String.toList_append, List.append_assoc]
  rw [read?, hhead, afterStart?_append, Option.bind_eq_bind, Option.bind_some, readName?_text,
    Option.bind_eq_bind, Option.bind_some]
  dsimp only
  rw [readFileName?_text, Option.bind_eq_bind, Option.bind_some, part]

end FormEntry

end ThreatGraph

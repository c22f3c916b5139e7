import SqlSchema.Connection.Address
import SqlSchema.Proofs.Net.Url
import SqlSchema.Proofs.Text.Blank

/-! # Configurations from addresses

Credentials are decoded once, so those that are written as triples come out as the text of their
bytes, whatever it holds. The name of a database and the path of a file are never decoded: they come
out in the form that a path has in an address. -/

namespace SqlSchema.Connection

open SqlSchema.Net SqlSchema.Number SqlSchema.Text

/-- The address of a server, the credentials and the database being as they are written. -/
def serverAddress (username password database : String) : String :=
  "mysql://" ++ username ++ ":" ++ password ++ "@h/" ++ database

def fileAddress (path : String) : String :=
  "sqlite:///" ++ path

def addressedServer (username password database : String) : Server :=
  { hostname := "h", port := 3306, username := username, password := password,
    database := database, sslMode := .prefer }

/-! ## Credentials -/

theorem credential_eq_ok_iff {cs : List Char} {s : String} :
    credential cs = .ok s ↔ percentDecode (utf8Encode (String.ofList cs)) = utf8Encode s := by
  rw [eq_comm (b := utf8Encode s), ← utf8Decode_eq_ok_iff, credential]
  cases utf8Decode (percentDecode (utf8Encode (String.ofList cs))) <;> simp [Except.mapError]

theorem credential_tripled_eq_ok_iff {bytes : List UInt8} {s : String} :
    credential (tripled bytes).toList = .ok s ↔ utf8Encode s = bytes := by
  rw [credential_eq_ok_iff, String.ofList_toList, percentDecode_tripled, eq_comm]

/-! ## Parts of addresses -/

theorem isPart_tripled (bytes : List UInt8) : IsPart (tripled bytes).toList := by
  have hall : IsPart tripleChars := by decide
  intro c hc
  rw [tripled, String.toList_ofList] at hc
  exact hall c (mem_tripleChars hc)

theorem percentEncode_tripled (bytes : List UInt8) :
    percentEncode isEncodedInPath (tripled bytes).toList = (tripled bytes).toList := by
  have hall : tripleChars.all (fun c => c.toNat < 0x80 && !isEncodedInPath c) = true := by decide
  refine percentEncode_of_kept fun c hc => ?_
  rw [tripled, String.toList_ofList] at hc
  simpa using List.all_eq_true.mp hall c (mem_tripleChars hc)

/-- The characters of plain names: letters, digits, the underscore, the hyphen, and all characters
beyond ASCII. -/
def isNameChar (c : Char) : Bool :=
  isLetter c || isDigit c || c == '_' || c == '-' || decide (0x80 ≤ c.toNat)

def IsName (s : String) : Prop :=
  s ≠ "" ∧ s.toList.all isNameChar = true

instance (s : String) : Decidable (IsName s) :=
  inferInstanceAs (Decidable (_ ∧ _))

theorem kept_of_isNameChar {c : Char} (h : isNameChar c = true) (hascii : c.toNat < 0x80) :
    0x20 < c.toNat ∧ isEncodedInPath c = false := by
  have hall : ∀ n < 0x80, isNameChar (Char.ofNat n) = true →
      0x20 < n ∧ isEncodedInPath (Char.ofNat n) = false := by decide
  rw [← Char.ofNat_toNat c] at h ⊢
  simpa using hall c.toNat hascii h

theorem IsName.of_mem {d : String} (h : IsName d) {c : Char} (hc : c ∈ d.toList) :
    isNameChar c = true :=
  List.all_eq_true.mp h.2 c hc

theorem IsName.isPart {d : String} (h : IsName d) : IsPart d.toList := by
  intro c hc
  have hchar := h.of_mem hc
  refine ⟨?_, fun hmark => ?_⟩
  · by_cases hascii : c.toNat < 0x80
    · exact (kept_of_isNameChar hchar hascii).1
    · omega
  · have hmarks : urlMarks.any isNameChar = false := by decide
    exact List.any_eq_false.mp hmarks c hmark hchar

theorem IsName.notMem {d : String} (h : IsName d) {c : Char} (hc : isNameChar c = false) :
    c ∉ d.toList := by
  intro hmem
  rw [h.of_mem hmem] at hc
  contradiction

/-! ## Addresses of servers and files -/

theorem trim_ne_inMemoryAddress {word : String} (hne : word ≠ "")
    (hword : word.toList.any isBlankChar = false)
    (hother : ¬word.toList <+: inMemoryAddress.toList) (rest : String) :
    trim (word ++ rest) ≠ inMemoryAddress := by
  obtain ⟨kept, hkept⟩ := exists_trim_append hne (forall_not_blank_of_any hword) rest
  rw [hkept]
  intro heq
  apply hother
  rw [← heq, String.toList_append]
  exact List.prefix_append word.toList kept.toList

theorem readAddress_of_mySql {address : String} {u : Url} (htrim : trim address ≠ inMemoryAddress)
    (hparse : Url.parse address = .ok u) (hbackend : Backend.ofText? u.scheme = some .mySql) :
    readAddress address = (serverParameters u).map (Backend.mySql, ·) := by
  rw [readAddress, if_neg htrim, hparse]
  simp only [Except.mapError, bind, Except.bind, hbackend]
  cases serverParameters u <;> rfl

theorem readAddress_of_sqlite {address : String} {u : Url}
    (htrim : trim address ≠ inMemoryAddress) (hparse : Url.parse address = .ok u)
    (hbackend : Backend.ofText? u.scheme = some .sqlite) :
    readAddress address = .ok (.sqlite, fileParameters u) := by
  rw [readAddress, if_neg htrim, hparse]
  simp only [Except.mapError, bind, Except.bind, hbackend]
  rfl

def segmentPath (segment : String) : String :=
  String.ofList (addSegment ['/'] (percentEncode isEncodedInPath segment.toList) false)

theorem isPlainScheme_mysql : IsPlainScheme "mysql" := by
  constructor <;> decide

theorem isPlainScheme_sqlite : IsPlainScheme "sqlite" := by
  constructor <;> decide

/-- The parts of the address of a server are found as they are written, but for the path. -/
theorem parse_serverAddress {username password database : String}
    (husername : IsPart username.toList) (hpassword : IsPart password.toList)
    (hdatabase : IsPart database.toList) :
    Url.parse (serverAddress username password database) =
      .ok { scheme := "mysql", username := username.toList, password := password.toList,
            host := some "h", path := segmentPath database } := by
  have hhost : IsPart ['h'] := by decide
  have hname : opaqueHost ['h'] = .ok "h" := rfl
  have hcredentials := readCredentials_append husername hpassword hhost database.toList
  have hchars : (serverAddress username password database).toList = "mysql".toList ++
      ':' :: '/' :: '/' ::
        (username.toList ++ ':' :: password.toList ++ '@' :: ['h'] ++ '/' :: database.toList) := by
    simp [serverAddress]
  have hprinted : ∀ c ∈ username.toList ++ ':' :: password.toList ++ '@' :: ['h'] ++
      '/' :: database.toList, 0x20 < c.toNat := by
    simp only [List.forall_mem_append, List.forall_mem_cons]
    exact ⟨⟨⟨husername.printed, by decide, hpassword.printed⟩, by decide, by decide,
      List.forall_mem_nil _⟩, by decide, hdatabase.printed⟩
  rw [isPlainScheme_mysql.parse_eq hchars hprinted, readAuthority_of_credentials
    isPlainScheme_mysql.plain hcredentials hhost hname rfl hdatabase]
  rfl

theorem parse_fileAddress {path : String} (hpath : IsPart path.toList) :
    Url.parse (fileAddress path) = .ok { scheme := "sqlite", path := segmentPath path } := by
  have hname : opaqueHost [] = .ok "" := rfl
  have hcredentials : readCredentials false ('/' :: path.toList) =
      .ok (([], []), [] ++ '/' :: path.toList) := rfl
  have hchars : (fileAddress path).toList =
      "sqlite".toList ++ ':' :: '/' :: '/' :: '/' :: path.toList := by
    simp [fileAddress]
  have hprinted : ∀ c ∈ '/' :: path.toList, 0x20 < c.toNat :=
    List.forall_mem_cons.mpr ⟨by decide, hpath.printed⟩
  rw [isPlainScheme_sqlite.parse_eq hchars hprinted, readAuthority_of_credentials
    isPlainScheme_sqlite.plain hcredentials (by decide) hname rfl hpath]
  rfl

theorem readAddress_serverAddress {username password database : String}
    (husername : IsPart username.toList) (hpassword : IsPart password.toList)
    (hdatabase : IsPart database.toList) :
    readAddress (serverAddress username password database) =
      (serverParameters
        { scheme := "mysql", username := username.toList, password := password.toList,
          host := some "h", path := segmentPath database }).map (Backend.mySql, ·) := by
  have htrim : trim (serverAddress username password database) ≠ inMemoryAddress := by
    simp only [serverAddress, String.append_assoc]
    exact trim_ne_inMemoryAddress (by decide) (by decide) (by decide) _
  have hbackend : Backend.ofText? "mysql" = some .mySql := by decide
  exact readAddress_of_mySql htrim (parse_serverAddress husername hpassword hdatabase) hbackend

theorem readAddress_fileAddress {path : String} (hpath : IsPart path.toList) :
    readAddress (fileAddress path) =
      .ok (.sqlite, fileParameters { scheme := "sqlite", path := segmentPath path }) := by
  have htrim : trim (fileAddress path) ≠ inMemoryAddress :=
    trim_ne_inMemoryAddress (by decide) (by decide) (by decide) path
  have hbackend : Backend.ofText? "sqlite" = some .sqlite := by decide
  exact readAddress_of_sqlite htrim (parse_fileAddress hpath) hbackend

/-! ## Segments that spell a text -/

def pathText (segment : String) : String :=
  String.ofList (percentEncode isEncodedInPath segment.toList)

/-- A segment of an address that is decoded as a text, which names an entry of the root. -/
structure Spells (segment text : String) : Prop where
  isPart : IsPart segment.toList
  decoded : percentDecode (utf8Encode (pathText segment)) = utf8Encode text
  ne_empty : text ≠ ""
  ne_point : text ≠ "."
  ne_points : text ≠ ".."

namespace Spells

variable {segment text : String}

theorem credential_pathText (h : Spells segment text) :
    credential (pathText segment).toList = .ok text := by
  rw [credential_eq_ok_iff, String.ofList_toList]
  exact h.decoded

theorem segmentPath_eq (h : Spells segment text) :
    segmentPath segment = "/" ++ pathText segment := by
  have hdecoded : percentDecode ((percentEncode isEncodedInPath segment.toList).flatMap
      String.utf8EncodeChar) = utf8Encode text := by
    rw [← h.decoded, utf8Encode, pathText, String.toList_ofList]
  have hone := fun heq => h.ne_point (utf8Encode_inj.mp (hdecoded.symm.trans heq))
  have htwo := fun heq => h.ne_points (utf8Encode_inj.mp (hdecoded.symm.trans heq))
  rw [segmentPath, addSegment_root hone htwo, ← String.toList_inj, pathText]
  simp

theorem pathText_ne_empty (h : Spells segment text) : pathText segment ≠ "" := by
  intro hempty
  have hdecoded := h.decoded
  rw [hempty] at hdecoded
  exact h.ne_empty (utf8Encode_inj.mp (hdecoded.symm.trans (by decide)))

/-- The slash in front of the text is the only one. -/
theorem withoutSlashes_segmentPath (h : Spells segment text) :
    withoutSlashes (segmentPath segment) = pathText segment := by
  -- A slash of the segment would have ended it, and a triple holds none.
  have hslash : '/' ∉ (pathText segment).toList := by
    rw [pathText, String.toList_ofList]
    intro hmem
    rcases mem_percentEncode hmem with hsegment | htriple
    · exact h.isPart.notMem (by decide) hsegment
    · exact absurd htriple (by decide)
  have hkept : (pathText segment).toList.dropWhile (· == '/') = (pathText segment).toList := by
    cases hchars : (pathText segment).toList with
    | nil => rfl
    | cons c cs =>
        have hc : c ≠ '/' := fun heq => hslash (by simp [hchars, heq])
        rw [List.dropWhile_cons_of_neg (by simpa using hc)]
  rw [h.segmentPath_eq, withoutSlashes, String.toList_append]
  change String.ofList (('/' :: (pathText segment).toList).dropWhile (· == '/')) = _
  rw [List.dropWhile_cons_of_pos (by simp), hkept, String.ofList_toList]

/-- The configuration of a server has the credentials decoded and the database as the path spells
it. -/
theorem ofAddress_serverAddress_eq_ok_iff (h : Spells segment text) {username password : String}
    (husername : IsPart username.toList) (hpassword : IsPart password.toList) {id : Uuid}
    {name : String} {c : Config} :
    Config.ofAddress id name (serverAddress username password segment) = .ok c ↔
      ∃ user pass, credential username.toList = .ok user ∧ credential password.toList = .ok pass ∧
        c = ⟨id, name, .mySql, .server (addressedServer user pass (pathText segment))⟩ := by
  have hempty : (pathText segment).isEmpty = false := by
    simpa using h.pathText_ne_empty
  have hmode : sslModeOf
      { scheme := "mysql", username := username.toList, password := password.toList,
        host := some "h", path := segmentPath segment } = .prefer := rfl
  rw [Config.ofAddress, readAddress_serverAddress husername hpassword h.isPart, serverParameters]
  simp only [h.withoutSlashes_segmentPath, hempty, hmode, Bool.false_eq_true, if_false]
  cases credential username.toList with
  | error cause => simp [bind, Except.bind, Except.map]
  | ok user =>
      cases credential password.toList with
      | error cause => simp [bind, Except.bind, Except.map]
      | ok pass =>
          simp [bind, Except.bind, Except.map, pure, Except.pure, addressedServer, eq_comm]

/-- Credentials with nothing to decode in them are those of the configuration. -/
theorem ofAddress_serverAddress (h : Spells segment text) (id : Uuid) (name : String) :
    Config.ofAddress id name (serverAddress "u" "p" segment) =
      .ok ⟨id, name, .mySql, .server (addressedServer "u" "p" (pathText segment))⟩ := by
  have husername : credential "u".toList = .ok "u" := credential_eq_ok_iff.mpr (by decide)
  have hpassword : credential "p".toList = .ok "p" := credential_eq_ok_iff.mpr (by decide)
  rw [h.ofAddress_serverAddress_eq_ok_iff (by decide) (by decide)]
  exact ⟨"u", "p", husername, hpassword, rfl⟩

theorem ofAddress_fileAddress (h : Spells segment text) (id : Uuid) (name : String) :
    Config.ofAddress id name (fileAddress segment) =
      .ok ⟨id, name, .sqlite, .file ("/" ++ pathText segment) false⟩ := by
  have hparameters : fileParameters { scheme := "sqlite", path := segmentPath segment } =
      .file ("/" ++ pathText segment) false := by
    have hmemory : "/" ++ pathText segment ≠ ":memory:" := by
      intro heq
      have hhead := congrArg (·.toList.head?) heq
      simp at hhead
    rw [fileParameters, h.segmentPath_eq]
    simp [hmemory]
  rw [Config.ofAddress, readAddress_fileAddress h.isPart, hparameters]
  rfl

end Spells

theorem spells_name {d : String} (h : IsName d) : Spells d d where
  isPart := h.isPart
  decoded := by
    rw [utf8Encode, pathText, String.toList_ofList,
      percentDecode_percentEncode (h.notMem (by decide)), utf8Encode]
  ne_empty := h.1
  ne_point := by
    rintro rfl
    exact h.notMem (c := '.') (by decide) (by decide)
  ne_points := by
    rintro rfl
    exact h.notMem (c := '.') (by decide) (by decide)

theorem pathText_tripled (bytes : List UInt8) : pathText (tripled bytes) = tripled bytes := by
  rw [pathText, percentEncode_tripled, String.ofList_toList]

theorem spells_tripled {e : String} (hempty : e ≠ "") (hone : e ≠ ".") (htwo : e ≠ "..") :
    Spells (tripled (utf8Encode e)) e where
  isPart := isPart_tripled _
  decoded := by rw [pathText_tripled, percentDecode_tripled]
  ne_empty := hempty
  ne_point := hone
  ne_points := htwo

/-! ## Credentials of addresses -/

/-- Whatever two byte strings are written as triples in front of the host, the address is that of a
configuration just if both are text, and then they are its user and its password. -/
theorem ofAddress_tripled_eq_ok_iff (id : Uuid) (name : String) (u p : List UInt8) (c : Config) :
    Config.ofAddress id name (serverAddress (tripled u) (tripled p) "d") = .ok c ↔
      ∃ username password, utf8Encode username = u ∧ utf8Encode password = p ∧
        c = ⟨id, name, .mySql, .server
          { hostname := "h", port := 3306, username := username, password := password,
            database := "d", sslMode := .prefer }⟩ := by
  have hname : IsName "d" := by decide
  have htext : pathText "d" = "d" := by decide
  rw [(spells_name hname).ofAddress_serverAddress_eq_ok_iff (isPart_tripled u) (isPart_tripled p),
    htext]
  simp only [credential_tripled_eq_ok_iff, addressedServer]

/-! ## Names and paths of addresses -/

/-- A text of a path is as it is written just if all of it is ASCII. -/
theorem IsName.pathText_eq_iff {d : String} (h : IsName d) :
    pathText d = d ↔ ∀ c ∈ d.toList, c.toNat < 0x80 := by
  constructor
  · intro heq c hc
    rw [← heq, pathText, String.toList_ofList] at hc
    exact ascii_of_mem_percentEncode hc
  · intro hascii
    rw [pathText, percentEncode_of_kept, String.ofList_toList]
    intro c hc
    exact ⟨hascii c hc, (kept_of_isNameChar (h.of_mem hc) (hascii c hc)).2⟩

/-- The name of a database and the path of a file are not decoded, as the credentials are. A name
comes out in the form that a path has in an address, which is another text unless all of it is
ASCII. A text whose bytes are all written as triples comes out as the triples, except that one
point and two are segments that no path keeps. -/
theorem ofAddress_pathText (id : Uuid) (name : String) {d e : String} (hd : IsName d)
    (he : e ≠ "") :
    Config.ofAddress id name (serverAddress "u" "p" d) =
        .ok ⟨id, name, .mySql, .server (addressedServer "u" "p" (pathText d))⟩
      ∧ Config.ofAddress id name (fileAddress d) =
        .ok ⟨id, name, .sqlite, .file ("/" ++ pathText d) false⟩
      ∧ credential (pathText d).toList = .ok d
      ∧ (pathText d = d ↔ ∀ c ∈ d.toList, c.toNat < 0x80)
      ∧ (e ≠ "." → e ≠ ".." →
          Config.ofAddress id name (serverAddress "u" "p" (tripled (utf8Encode e))) =
              .ok ⟨id, name, .mySql, .server (addressedServer "u" "p" (tripled (utf8Encode e)))⟩
            ∧ tripled (utf8Encode e) ≠ e
            ∧ credential (tripled (utf8Encode e)).toList = .ok e)
      ∧ (e = "." ∨ e = ".." →
          Config.ofAddress id name (serverAddress "u" "p" (tripled (utf8Encode e))) =
            .error .missingDatabase) := by
  have hname := spells_name hd
  refine ⟨hname.ofAddress_serverAddress id name, hname.ofAddress_fileAddress id name,
    hname.credential_pathText, hd.pathText_eq_iff, fun hone htwo => ?_, fun hpoints => ?_⟩
  · have haddress := (spells_tripled he hone htwo).ofAddress_serverAddress id name
    rw [pathText_tripled] at haddress
    exact ⟨haddress, tripled_utf8Encode_ne he, credential_tripled_eq_ok_iff.mpr rfl⟩
  · -- The path takes such a segment for a step, which leads nowhere from the root.
    have hroot : segmentPath (tripled (utf8Encode e)) = "/" := by
      rcases hpoints with rfl | rfl <;> decide
    rw [Config.ofAddress, readAddress_serverAddress (by decide) (by decide) (isPart_tripled _),
      hroot]
    rfl

/-- A name of one letter beyond ASCII, and a letter that is written as a triple. -/
theorem ofAddress_pathText_accented :
    IsName "é" ∧ "a" ≠ "" ∧
      Config.ofAddress .nil "app" "mysql://u:p@h/é" =
        .ok ⟨.nil, "app", .mySql, .server (addressedServer "u" "p" "%C3%A9")⟩ ∧
      Config.ofAddress .nil "app" "sqlite:///é" =
        .ok ⟨.nil, "app", .sqlite, .file "/%C3%A9" false⟩ ∧
      Config.ofAddress .nil "app" "mysql://u:p@h/%61" =
        .ok ⟨.nil, "app", .mySql, .server (addressedServer "u" "p" "%61")⟩ := by
  have hd : IsName "é" := by decide
  have he : "a" ≠ "" := by decide
  have hserverText : serverAddress "u" "p" "é" = "mysql://u:p@h/é" := by decide
  have hfileText : fileAddress "é" = "sqlite:///é" := by decide
  have hletterText : serverAddress "u" "p" "%61" = "mysql://u:p@h/%61" := by decide
  have htext : pathText "é" = "%C3%A9" := by decide
  have hpath : "/" ++ "%C3%A9" = "/%C3%A9" := by decide
  have htriple : tripled (utf8Encode "a") = "%61" := by decide
  obtain ⟨hserver, hfile, -, -, htripled, -⟩ := ofAddress_pathText .nil "app" hd he
  obtain ⟨hletter, -, -⟩ := htripled (by decide) (by decide)
  rw [htext, hserverText] at hserver
  rw [htext, hfileText, hpath] at hfile
  rw [htriple, hletterText] at hletter
  exact ⟨hd, he, hserver, hfile, hletter⟩

/-- A database whose name is a letter beyond ASCII is configured under another name. -/
theorem ofAddress_misnamed :
    Config.ofAddress .nil "app" "mysql://u:p@h/é" =
        .ok ⟨.nil, "app", .mySql, .server (addressedServer "u" "p" "%C3%A9")⟩
      ∧ "%C3%A9" ≠ "é" := by
  have hd : IsName "é" := by decide
  have haddress : serverAddress "u" "p" "é" = "mysql://u:p@h/é" := by decide
  have htext : pathText "é" = "%C3%A9" := by decide
  refine ⟨?_, by decide⟩
  rw [← haddress, (spells_name hd).ofAddress_serverAddress, htext]

end SqlSchema.Connection

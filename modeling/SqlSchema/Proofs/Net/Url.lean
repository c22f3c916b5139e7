import Mathlib.Data.List.TakeWhile
import SqlSchema.Net.Url
import SqlSchema.Proofs.Text.Percent

/-! # Addresses read part by part

The parts of an address are cut at its marks, so a part without marks is found as it is written, and
the last segment of a path is encoded unless it leaves the path as it was. -/

namespace SqlSchema.Net

open SqlSchema.Number SqlSchema.Text

/-! ## Texts cut at marks -/

section Cuts

variable {front behind : List Char} {mark : Char}

theorem takeWhile_append_stop {p : Char → Bool} (hfront : ∀ c ∈ front, p c = true)
    (hmark : p mark = false) (behind : List Char) :
    (front ++ mark :: behind).takeWhile p = front := by
  rw [List.takeWhile_append_of_pos hfront, List.takeWhile_cons_of_neg (by simp [hmark]),
    List.append_nil]

theorem dropWhile_append_stop {p : Char → Bool} (hfront : ∀ c ∈ front, p c = true)
    (hmark : p mark = false) (behind : List Char) :
    (front ++ mark :: behind).dropWhile p = mark :: behind := by
  rw [List.dropWhile_append_of_pos hfront, List.dropWhile_cons_of_neg (by simp [hmark])]

theorem bne_of_notMem {cs : List Char} (h : mark ∉ cs) : ∀ c ∈ cs, (c != mark) = true := by
  intro c hc
  have hne : c ≠ mark := fun heq => h (heq ▸ hc)
  simpa using hne

theorem cutFirst_append (h : mark ∉ front) (behind : List Char) :
    cutFirst mark (front ++ mark :: behind) = (front, behind) := by
  have hfront := bne_of_notMem h
  rw [cutFirst, takeWhile_append_stop hfront (by simp), dropWhile_append_stop hfront (by simp)]
  rfl

theorem cutLast?_append (front : List Char) (h : mark ∉ behind) :
    cutLast? mark (front ++ mark :: behind) = some (front, behind) := by
  have hbehind : ((front ++ mark :: behind).reverse.takeWhile (· != mark)).reverse = behind := by
    have hreverse :
        (front ++ mark :: behind).reverse = behind.reverse ++ mark :: front.reverse := by
      simp
    rw [hreverse, takeWhile_append_stop (bne_of_notMem (by simpa using h)) (by simp),
      List.reverse_reverse]
  have hlength : (front ++ mark :: behind).length - behind.length - 1 = front.length := by
    simp only [List.length_append, List.length_cons]
    omega
  rw [cutLast?, if_pos (by simp)]
  dsimp only
  rw [hbehind, hlength, List.take_left]

theorem splitAt_of_forall {isMark : Char → Bool} {cs : List Char}
    (h : ∀ c ∈ cs, isMark c = false) : splitAt isMark cs = [cs] := by
  induction cs with
  | nil => rfl
  | cons c cs ih =>
      obtain ⟨hc, hcs⟩ := List.forall_mem_cons.mp h
      rw [splitAt, if_neg (by simp [hc]), ih hcs]

end Cuts

/-! ## Parts without marks -/

def urlMarks : List Char :=
  ['#', '/', ':', '?', '@', '[', '\\', ']']

/-- A part of an address: it holds no mark, no space and no control. -/
def IsPart (cs : List Char) : Prop :=
  ∀ c ∈ cs, 0x20 < c.toNat ∧ c ∉ urlMarks

instance (cs : List Char) : Decidable (IsPart cs) :=
  List.decidableBAll _ cs

theorem cleaned_eq {s : String} (h : ∀ c ∈ s.toList, 0x20 < c.toNat) : cleaned s = s.toList := by
  have hkept {cs : List Char} (hcs : ∀ c ∈ cs, 0x20 < c.toNat) :
      cs.dropWhile isControlOrSpace = cs := by
    cases cs with
    | nil => rfl
    | cons c cs =>
        have hc : isControlOrSpace c = false := by
          simpa [isControlOrSpace] using hcs c List.mem_cons_self
        rw [List.dropWhile_cons_of_neg (by simp [hc])]
  have hends : (s.toList.reverse.dropWhile isControlOrSpace).reverse = s.toList := by
    rw [hkept fun c hc => h c (List.mem_reverse.mp hc), List.reverse_reverse]
  rw [cleaned, hkept h, hends, List.filter_eq_self]
  intro c hc
  have hother {d : Char} (hd : d.toNat ≤ 0x20) : c ≠ d := by
    rintro rfl
    exact absurd (h c hc) (Nat.not_lt.mpr hd)
  have htab : c ≠ '\t' := hother (by decide)
  have hline : c ≠ '\n' := hother (by decide)
  have hreturn : c ≠ '\r' := hother (by decide)
  simp [htab, hline, hreturn]

theorem IsPart.printed {cs : List Char} (h : IsPart cs) : ∀ c ∈ cs, 0x20 < c.toNat :=
  fun c hc => (h c hc).1

theorem IsPart.endsAuthority {cs : List Char} (h : IsPart cs) :
    ∀ c ∈ cs, (!endsAuthority false c) = true := by
  intro c hc
  have hmarks := (h c hc).2
  simp only [urlMarks, List.mem_cons, List.not_mem_nil, or_false, not_or] at hmarks
  simp [Net.endsAuthority, hmarks]

theorem IsPart.endsPath {cs : List Char} (h : IsPart cs) : ∀ c ∈ cs, (!endsPath c) = true := by
  intro c hc
  have hmarks := (h c hc).2
  simp only [urlMarks, List.mem_cons, List.not_mem_nil, or_false, not_or] at hmarks
  simp [Net.endsPath, hmarks]

theorem IsPart.notMem {cs : List Char} (h : IsPart cs) {mark : Char} (hmark : mark ∈ urlMarks) :
    mark ∉ cs :=
  fun hmem => (h mark hmem).2 hmark

/-- The credentials stand before the last at sign, cut at the first colon. -/
theorem readCredentials_append {username password host : List Char} (husername : IsPart username)
    (hpassword : IsPart password) (hhost : IsPart host) (path : List Char) :
    readCredentials false (username ++ ':' :: password ++ '@' :: host ++ '/' :: path) =
      .ok ((username, password), host ++ '/' :: path) := by
  have hauthority :
      ∀ c ∈ username ++ ':' :: password ++ '@' :: host, (!endsAuthority false c) = true := by
    simp only [List.forall_mem_append, List.forall_mem_cons]
    exact ⟨⟨husername.endsAuthority, rfl, hpassword.endsAuthority⟩, rfl, hhost.endsAuthority⟩
  rw [readCredentials, takeWhile_append_stop hauthority rfl, dropWhile_append_stop hauthority rfl]
  rw [cutLast?_append _ (hhost.notMem (by decide))]
  dsimp only
  rw [if_neg (by simp), cutFirst_append (husername.notMem (by decide))]

theorem spanHost_append {host : List Char} (hhost : IsPart host) (rest : List Char) :
    spanHost false false (host ++ '/' :: rest) = (host, '/' :: rest) := by
  induction host with
  | nil => rfl
  | cons c host ih =>
      obtain ⟨hc, hothers⟩ := List.forall_mem_cons.mp hhost
      have hmarks := hc.2
      simp only [urlMarks, List.mem_cons, List.not_mem_nil, or_false, not_or] at hmarks
      simp [spanHost, endsAuthority, hmarks, ih hothers]

theorem hierarchicalPath_segment {segment : List Char} (h : IsPart segment) :
    hierarchicalPath false ('/' :: segment) =
      addSegment ['/'] (percentEncode isEncodedInPath segment) false := by
  have hslash : ∀ c ∈ segment, (c == '/' || (false && c == '\\')) = false := by
    intro c hc
    have hnone : '/' ∉ segment := h.notMem (by decide)
    have hne : c ≠ '/' := fun heq => hnone (heq ▸ hc)
    simpa using hne
  have hfirst : ('/' == '/' || (false && '/' == '\\')) = true := by decide
  rw [hierarchicalPath]
  dsimp only
  rw [if_pos hfirst, splitAt_of_forall hslash, addSegments]

theorem takeWhile_path {segment : List Char} (h : IsPart segment) :
    ('/' :: segment).takeWhile (!endsPath ·) = '/' :: segment := by
  rw [List.takeWhile_eq_self_iff, List.forall_mem_cons]
  exact ⟨rfl, h.endsPath⟩

theorem dropWhile_path {segment : List Char} (h : IsPart segment) :
    ('/' :: segment).dropWhile (!endsPath ·) = [] := by
  rw [List.dropWhile_eq_nil_iff, List.forall_mem_cons]
  exact ⟨rfl, h.endsPath⟩

/-- What stands behind the credentials is a host and a path of one segment. -/
theorem readAuthority_of_credentials {scheme name : String} {cs username password host segment :
    List Char} (hscheme : isSpecialScheme scheme = false)
    (hcredentials :
      readCredentials false cs = .ok ((username, password), host ++ '/' :: segment))
    (hhost : IsPart host) (hname : opaqueHost host = .ok name)
    (hnamed : (name.isEmpty && !(username.isEmpty && password.isEmpty)) = false)
    (hsegment : IsPart segment) :
    readAuthority scheme cs =
      .ok { scheme := scheme, username := username, password := password,
            host := if name.isEmpty then none else some name,
            path := String.ofList
              (addSegment ['/'] (percentEncode isEncodedInPath segment) false) } := by
  have hport : (name.isEmpty && ('/' :: segment).head? == some ':') = false := by
    rw [show (('/' :: segment).head? == some ':') = false from rfl, Bool.and_false]
  rw [readAuthority, hscheme, hcredentials]
  simp only [bind, Except.bind, pure, Except.pure, spanHost_append hhost, Bool.false_eq_true,
    if_false, hname, hport, hnamed]
  rw [takeWhile_path hsegment, dropWhile_path hsegment, hierarchicalPath_segment hsegment]
  rfl

/-! ## Dot segments -/

/-- A segment that is spelled by points alone is decoded as these points. -/
theorem percentDecode_of_plainPoints (segment : List Char) {points : List Char}
    (h : plainPoints segment = points) (hpoints : ∀ c ∈ points, c = '.') :
    percentDecode (segment.flatMap String.utf8EncodeChar) =
      points.flatMap String.utf8EncodeChar := by
  have hmark : String.utf8EncodeChar '%' = [0x25] := by decide
  have htwo : String.utf8EncodeChar '2' = [0x32] := by decide
  have hlower : String.utf8EncodeChar 'e' = [0x65] := by decide
  have hupper : String.utf8EncodeChar 'E' = [0x45] := by decide
  have hpoint : String.utf8EncodeChar '.' = [0x2E] := by decide
  subst h
  -- A point is spelled as a triple in either case, or as it is.
  induction segment using plainPoints.induct with
  | case1 rest ih =>
      rw [plainPoints] at hpoints ⊢
      have hrest := ih fun c hc => hpoints c (List.mem_cons_of_mem _ hc)
      simp only [List.flatMap_cons, hmark, htwo, hlower, hpoint, List.singleton_append, ← hrest]
      rw [percentDecode.eq_def]
      rfl
  | case2 rest ih =>
      rw [plainPoints] at hpoints ⊢
      have hrest := ih fun c hc => hpoints c (List.mem_cons_of_mem _ hc)
      simp only [List.flatMap_cons, hmark, htwo, hupper, hpoint, List.singleton_append, ← hrest]
      rw [percentDecode.eq_def]
      rfl
  | case3 c rest hlow hup ih =>
      rw [plainPoints.eq_3 _ _ hlow hup] at hpoints ⊢
      obtain ⟨rfl, hothers⟩ := List.forall_mem_cons.mp hpoints
      rw [List.flatMap_cons, List.flatMap_cons, hpoint, List.singleton_append,
        List.singleton_append, percentDecode_cons (by decide), ih hothers]
  | case4 => rfl

/-- A segment stays at the root unless it is decoded as one point or two. -/
theorem addSegment_root {segment : List Char}
    (hone : percentDecode (segment.flatMap String.utf8EncodeChar) ≠ utf8Encode ".")
    (htwo : percentDecode (segment.flatMap String.utf8EncodeChar) ≠ utf8Encode "..") :
    addSegment ['/'] segment false = '/' :: segment := by
  have hsingle : plainPoints segment ≠ ['.'] := fun h =>
    hone (percentDecode_of_plainPoints segment h (by simp))
  have hdouble : plainPoints segment ≠ ['.', '.'] := fun h =>
    htwo (percentDecode_of_plainPoints segment h (by simp))
  simp [addSegment, hsingle, hdouble]

/-! ## Whole addresses -/

/-- A scheme in lower case that is none of the web's and not that of files. -/
structure IsPlainScheme (scheme : String) : Prop where
  first : scheme.toList.head?.any isLetter = true
  chars : scheme.toList.all isSchemeChar = true
  lower : scheme.toList.map Char.toLower = scheme.toList
  plain : isSpecialScheme scheme = false

theorem printed_of_isSchemeChar {c : Char} (h : isSchemeChar c = true) : 0x20 < c.toNat := by
  simp only [isSchemeChar, isLetter, isDigit, Bool.or_eq_true, Bool.and_eq_true,
    decide_eq_true_eq, beq_iff_eq] at h
  rcases h with (((h | h) | rfl) | rfl) | rfl
  · omega
  · omega
  · decide
  · decide
  · decide

namespace IsPlainScheme

variable {scheme : String}

theorem scheme?_append (h : IsPlainScheme scheme) (rest : List Char) :
    scheme? (scheme.toList ++ ':' :: rest) = some (scheme, rest) := by
  obtain ⟨first, others, hscheme⟩ : ∃ first others, scheme.toList = first :: others := by
    cases hlist : scheme.toList with
    | nil =>
        have hfirst := h.first
        simp [hlist] at hfirst
    | cons first others => exact ⟨first, others, rfl⟩
  have hletter : isLetter first = true := by simpa [hscheme] using h.first
  have hcolon : isSchemeChar ':' = false := by decide
  have hfront := takeWhile_append_stop (List.all_eq_true.mp h.chars) hcolon rest
  have hbehind := dropWhile_append_stop (List.all_eq_true.mp h.chars) hcolon rest
  rw [hscheme, List.cons_append] at hfront hbehind ⊢
  rw [scheme?, if_pos hletter, hbehind]
  rw [hfront, ← hscheme, h.lower, String.ofList_toList]
  rfl

/-- Two slashes behind a scheme start an authority. -/
theorem parse_eq (h : IsPlainScheme scheme) {s : String} {rest : List Char}
    (hs : s.toList = scheme.toList ++ ':' :: '/' :: '/' :: rest)
    (hrest : ∀ c ∈ rest, 0x20 < c.toNat) : Url.parse s = readAuthority scheme rest := by
  have hprinted : ∀ c ∈ s.toList, 0x20 < c.toNat := by
    rw [hs]
    simp only [List.forall_mem_append, List.forall_mem_cons]
    exact ⟨fun c hc => printed_of_isSchemeChar (List.all_eq_true.mp h.chars c hc),
      by decide, by decide, by decide, hrest⟩
  obtain ⟨hweb, hfile⟩ : isWebScheme scheme = false ∧ (scheme == "file") = false := by
    simpa [isSpecialScheme] using h.plain
  rw [Url.parse, cleaned_eq hprinted, hs, h.scheme?_append]
  simp only [hweb, hfile, Bool.false_eq_true, if_false]

end IsPlainScheme

end SqlSchema.Net

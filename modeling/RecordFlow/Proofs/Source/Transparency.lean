import RecordFlow.Proofs.Source.Uncompared

/-!
# Transparency — compressed sources and their content

A compressed source is read as its content would be.  Two things are told from the bytes as they are
stored: that a file has none, and how many of its bytes come at the first request.  So there are
contents that are read in another way when they are compressed: none at all, which is no error where
no header is looked for, and a byte order mark that does not come at once, which is left in front of
the first field, or that comes alone, behind which nothing is read.

* `Unpacks` says that a file is compressed and what its content is,
* `StoresAlike` that two trees have the same content at a path, compressed or not,
* `compression_is_transparent` that such trees are read alike, which contents are left out, and what
  they come to.
-/

namespace RecordFlow
namespace Source

variable {options : Options} {files packed plain : Files} {p : Path} {name : String}
  {bytes content : List UInt8}

/-! ## Content -/

/-- Whether a file is compressed and decodes to the given content without a fault. -/
structure Unpacks (bytes content : List UInt8) : Prop where
  compressed : (Input.ofBytes .portions bytes).compression ≠ .plain
  decoded : (Input.ofBytes .portions bytes).bytes = content
  sound : (Input.ofBytes .portions bytes).fault = none

/-- Whether the byte order mark of a compressed file, if it has one, comes at once with a byte
behind it, if there is one. -/
def ComesMarked (bytes content : List UInt8) : Prop :=
  Csv.byteOrderMark.isPrefixOf content = true →
    min headSize content.length ≤ (Input.ofBytes .portions bytes).lead

/-- Whether the byte order mark of a compressed file does not come at once. -/
def CutWithinMark (bytes content : List UInt8) : Prop :=
  Csv.byteOrderMark.isPrefixOf content = true ∧ (Input.ofBytes .portions bytes).lead < 3

def CutBehindMark (bytes content : List UInt8) : Prop :=
  Csv.byteOrderMark.isPrefixOf content = true ∧ (Input.ofBytes .portions bytes).lead = 3

instance (bytes content : List UInt8) : Decidable (CutBehindMark bytes content) :=
  inferInstanceAs (Decidable (_ ∧ _))

/-- Whether two trees have the same content at a path, which `packed` may hold compressed. -/
inductive StoresAlike (packed plain : Files) (p : Path) : Prop where
  | same : packed.read p = plain.read p → StoresAlike packed plain p
  | unpacked {bytes content : List UInt8} :
      packed.read p = .ok bytes → plain.read p = .ok content → Unpacks bytes content →
      Compression.detect (content.take headSize) = .plain →
      content ≠ [] → ComesMarked bytes content → StoresAlike packed plain p

theorem Unpacks.ne_nil (h : Unpacks bytes content) : bytes ≠ [] := by
  rintro rfl
  exact h.compressed rfl

/-- A byte order mark that is not cut off comes with what is behind it. -/
theorem comesMarked_or_cut (bytes content : List UInt8) :
    ComesMarked bytes content ∨ CutWithinMark bytes content ∨ CutBehindMark bytes content := by
  by_cases hcomes : min headSize content.length ≤ (Input.ofBytes .portions bytes).lead
  · exact .inl fun _ => hcomes
  · cases hmarked : Csv.byteOrderMark.isPrefixOf content with
    | false => exact .inl fun hmark => absurd (hmarked.symm.trans hmark) (by decide)
    | true =>
      have hfew : (Input.ofBytes .portions bytes).lead < 3 ∨
          (Input.ofBytes .portions bytes).lead = 3 := by
        simp only [headSize] at hcomes
        omega
      exact .inr (hfew.imp (⟨hmarked, ·⟩) (⟨hmarked, ·⟩))

/-! ## Rows -/

theorem tokensAt_of_read (harchive : isArchive p = false) (hread : files.read p = .ok bytes)
    (hbytes : bytes ≠ []) :
    tokensAt options files p =
      .ok (Csv.tokenize options.delimiter (Input.ofBytes .portions bytes).lead
        (Input.ofBytes .portions bytes).bytes (Input.ofBytes .portions bytes).fault) := by
  unfold tokensAt Input.ofPath
  rw [if_neg (by simp [harchive]), hread]
  cases bytes with
  | nil => exact absurd rfl hbytes
  | cons b rest => rfl

/-- A compressed file has the rows of its content, of which the first request comes at once. -/
theorem Unpacks.tokensAt_eq (h : Unpacks bytes content) (harchive : isArchive p = false)
    (hread : files.read p = .ok bytes) :
    tokensAt options files p =
      .ok (Csv.tokenize options.delimiter (Input.ofBytes .portions bytes).lead content none) := by
  rw [tokensAt_of_read harchive hread h.ne_nil, h.decoded, h.sound]

theorem tokensAt_of_plain (harchive : isArchive p = false) (hread : files.read p = .ok content)
    (hcontent : content ≠ []) (hplain : Compression.detect (content.take headSize) = .plain) :
    tokensAt options files p =
      .ok (Csv.tokenize options.delimiter (min headSize content.length) content none) := by
  have hinput : Input.ofBytes .portions content =
      ⟨.plain, content, min headSize content.length, none⟩ := by
    unfold Input.ofBytes
    rw [hplain]
  rw [tokensAt_of_read harchive hread hcontent, hinput]

/-- A content whose mark comes with what is behind it has the rows of a plain file. -/
theorem ComesMarked.tokenize_eq (h : ComesMarked bytes content) (delimiter : UInt8) :
    Csv.tokenize delimiter (Input.ofBytes .portions bytes).lead content none =
      Csv.tokenize delimiter (min headSize content.length) content none := by
  cases hmarked : Csv.byteOrderMark.isPrefixOf content with
  | false => exact Csv.tokenize_of_unmarked hmarked _ _
  | true =>
    have hcomes := h hmarked
    rcases List.isPrefixOf_iff_prefix.1 hmarked with ⟨rest, rfl⟩
    rw [List.length_append] at hcomes ⊢
    have hmark : Csv.byteOrderMark.length = 3 := rfl
    rw [hmark] at hcomes ⊢
    cases rest with
    | nil =>
      -- a mark and nothing else has no rows, whether or not it is taken for the end
      have hnone : ∀ lead, 3 ≤ lead →
          Csv.tokenize delimiter lead (Csv.byteOrderMark ++ []) none = ⟨[], none⟩ :=
        fun lead hlead => Csv.tokenize_mark hlead delimiter
      rw [hnone _ (by simpa [headSize] using hcomes), hnone _ (by simp [headSize])]
    | cons b rest =>
      have hfour : min headSize (3 + (b :: rest).length) = 4 := by
        simp only [headSize, List.length_cons]
        omega
      rw [hfour] at hcomes ⊢
      exact Csv.tokenize_of_gt hcomes delimiter _ _

/-- Trees that store alike have the same rows. -/
theorem StoresAlike.tokensAt_eq (h : StoresAlike packed plain p) :
    tokensAt options packed p = tokensAt options plain p := by
  cases h with
  | same hread =>
    unfold tokensAt Input.ofPath
    rw [hread]
  | @unpacked bytes content hpacked hstored hunpacks hplain hcontent hmarked =>
    cases harchive : isArchive p with
    | true =>
      unfold tokensAt Input.ofPath
      rw [if_pos harchive, if_pos harchive]
    | false =>
      rw [hunpacks.tokensAt_eq harchive hpacked,
        tokensAt_of_plain harchive hstored hcontent hplain, hmarked.tokenize_eq]

/-! ## Sources -/

theorem openAll_congr {paths : List Path} (h : ∀ p ∈ paths, StoresAlike packed plain p) :
    openAll options packed paths = openAll options plain paths := by
  unfold openAll
  apply List.map_congr_left
  rintro ⟨p, name⟩ hmem
  have hsame : tokensAt options packed p = tokensAt options plain p :=
    (h p (List.of_mem_zip hmem).1).tokensAt_eq
  simp only [Opened.ofPath_eq, hsame]

theorem Opened.ofPath_of_unpacks (h : Unpacks bytes content) (harchive : isArchive p = false)
    (hread : files.read p = .ok bytes) (hnone : content = [] ∨ CutBehindMark bytes content) :
    Opened.ofPath options files name p =
      if options.hasHeader then .error (.context "read_header" name 0 .emptyFile)
      else .ok ⟨name, none, [], none⟩ := by
  have hrows : Csv.tokenize options.delimiter (Input.ofBytes .portions bytes).lead content none =
      ⟨[], none⟩ := by
    rcases hnone with rfl | ⟨hmarked, hlead⟩
    · exact Csv.tokenize_nil _ _
    · rw [hlead]
      exact Csv.tokenize_of_eq hmarked _ _
  rw [ofPath_of_tokens (h.tokensAt_eq harchive hread), hrows]
  cases hheader : options.hasHeader <;> simp [ofTokens, hheader]

theorem Opened.ofPath_of_read_nil (harchive : isArchive p = false)
    (hread : files.read p = .ok []) :
    Opened.ofPath options files name p = .error (.context "read" name 0 .emptyFile) := by
  have htokens : tokensAt options files p = .error .emptyFile := by
    unfold tokensAt Input.ofPath
    rw [if_neg (by simp [harchive]), hread]
    rfl
  exact ofPath_of_error htokens

/-- Whatever the options are, and whichever of the sources of a list are compressed:

* sources that are compressed are read as their content is that is stored as it is, in every order
  of steps and whether or not the reading is cancelled: the same sessions are reached, and the
  sources emit the same to their end,
* this leaves out no content but none at all, and a byte order mark that does not come at the first
  request or that comes alone,
* a compressed source has the rows of its content, whatever comes at the first request; a byte order
  mark that does not come at once is read with the first field,
* a compressed source without content, or whose byte order mark comes alone, has no header if it is
  asked for one, and gives nothing at all if it is not, while a file without bytes is an error of
  its own. -/
theorem compression_is_transparent (options : Options) {paths : List Path}
    (halike : ∀ p ∈ paths, StoresAlike packed plain p) :
    ((∃ s : Session, s.Completes options (openAll options packed paths)) ∧
      (∀ s, Session.Reaches (.ofSources options (openAll options packed paths)) s ↔
        Session.Reaches (.ofSources options (openAll options plain paths)) s) ∧
      ∀ s s' : Session, s.Completes options (openAll options packed paths) →
        s'.Completes options (openAll options plain paths) →
        ∀ i < paths.length, s.emittedBy i = s'.emittedBy i) ∧
    (∀ packed plain p bytes content, packed.read p = .ok bytes → plain.read p = .ok content →
      Unpacks bytes content → Compression.detect (content.take headSize) = .plain →
      StoresAlike packed plain p ∨ content = [] ∨ CutWithinMark bytes content ∨
        CutBehindMark bytes content) ∧
    ∀ files i p name, paths[i]? = some p → (names paths)[i]? = some name → isArchive p = false →
      (∀ bytes content, files.read p = .ok bytes → Unpacks bytes content →
        tokensAt options files p =
          .ok (Csv.tokenize options.delimiter (Input.ofBytes .portions bytes).lead content none) ∧
        (CutWithinMark bytes content →
          tokensAt options files p = .ok (Csv.tokenize options.delimiter 0 content none))) ∧
      ∀ s : Session, s.Completes options (openAll options files paths) →
        (∀ bytes content, files.read p = .ok bytes → Unpacks bytes content →
          content = [] ∨ CutBehindMark bytes content →
          s.emittedBy i = if options.hasHeader then
            [.failure (.context "read_header" name 0 .emptyFile)] else []) ∧
        (files.read p = .ok [] →
          s.emittedBy i = [.failure (.context "read" name 0 .emptyFile)]) := by
  have hopened : openAll options packed paths = openAll options plain paths := openAll_congr halike
  refine ⟨⟨Session.exists_completes options _, ?_, ?_⟩, ?_, ?_⟩
  · intro s
    rw [hopened]
  · intro s s' hs hs' i hi
    rw [hopened] at hs
    have hemitted := hs.emittedBy_eq_readAll hi
    rw [hs'.emittedBy_eq_readAll hi] at hemitted
    exact (Option.some_inj.1 hemitted).symm
  · intro packed plain p bytes content hpacked hstored hunpacks hplain
    rcases comesMarked_or_cut bytes content with hmarked | hcut
    · by_cases hcontent : content = []
      · exact .inr (.inl hcontent)
      · exact .inl (.unpacked hpacked hstored hunpacks hplain hcontent hmarked)
    · exact .inr (.inr hcut)
  · intro files i p name hp hname harchive
    have hi := getElem?_openAll options files hp hname
    refine ⟨?_, ?_⟩
    · intro bytes content hread hunpacks
      have hrows : tokensAt options files p =
          .ok (Csv.tokenize options.delimiter (Input.ofBytes .portions bytes).lead content none) :=
        hunpacks.tokensAt_eq harchive hread
      refine ⟨hrows, fun hcut => ?_⟩
      rw [hrows, Csv.tokenize_of_lt hcut.2]
    · intro s hs
      constructor
      · intro bytes content hread hunpacks hnone
        rw [hs.emittedBy_eq hi, Opened.ofPath_of_unpacks hunpacks harchive hread hnone]
        cases options.hasHeader with
        | true => rfl
        | false => simp [emissions, Opened.mismatch?, Opened.body, Opened.bodyFrom,
            Opened.faultAfter]
      · intro hread
        rw [hs.emittedBy_eq hi, Opened.ofPath_of_read_nil harchive hread]
        rfl

/-! ## Samples -/

/-- The lines `id,name` and `1,x`. -/
def sampleContent : List UInt8 := [105, 100, 44, 110, 97, 109, 101, 10, 49, 44, 120, 10]

/-- The same in one member of a compressed file. -/
def sampleMember : List UInt8 :=
  [31, 139, 8, 0, 0, 0, 0, 0, 2, 3, 203, 76, 209, 201, 75, 204, 77, 229, 50, 212, 169, 224, 2,
   0, 204, 253, 185, 117, 12, 0, 0, 0]

def emptyMember : List UInt8 :=
  [31, 139, 8, 0, 0, 0, 0, 0, 2, 3, 3, 0, 0, 0, 0, 0, 0, 0, 0, 0]

/-- A header and fifty rows. -/
def fiftyRows : List UInt8 :=
  Utf8.encode (unlines ("id,name" :: (List.range 50).map fun i => s!"{i},n{i}"))

/-- The same in a frame of one compressed block. -/
def fiftyRowsFrame : List UInt8 :=
  [40, 181, 47, 253, 0, 88, 189, 5, 0, 38, 213, 44, 19, 160, 165, 48, 7, 207, 7, 124, 168, 170,
   112, 235, 38, 180, 41, 210, 255, 208, 42, 4, 40, 0, 37, 0, 37, 0, 230, 103, 170, 252, 74,
   145, 31, 169, 192, 47, 80, 130, 79, 160, 242, 21, 145, 143, 104, 124, 67, 226, 19, 154, 111,
   228, 207, 234, 87, 241, 163, 194, 23, 20, 48, 48, 248, 0, 4, 2, 18, 253, 68, 53, 253, 166,
   114, 63, 87, 237, 215, 138, 253, 88, 133, 126, 161, 18, 240, 19, 80, 133, 95, 161, 8, 63, 66,
   13, 126, 131, 18, 252, 4, 53, 252, 134, 10, 22, 241, 71, 172, 225, 111, 88, 194, 159, 176,
   198, 223, 88, 246, 103, 171, 254, 106, 209, 31, 173, 224, 47, 88, 130, 126, 130, 170, 244,
   43, 21, 233, 71, 170, 209, 111, 52, 18, 204, 39, 24, 149, 249, 202, 136, 204, 71, 70, 99,
   190, 49, 18, 243, 137, 209, 204, 55, 35, 207, 231, 81, 231, 235, 136, 243, 113, 20, 230, 11,
   35, 129, 63, 129, 85, 252, 149, 0]

def oneFile (bytes : List UInt8) : Files where
  root := .directory [("a", .file bytes)]
  cwd := []

def twoFiles (a b : List UInt8) : Files where
  root := .directory [("a", .file a), ("b", .file b)]
  cwd := []

theorem unpacks_sampleMember : Unpacks sampleMember sampleContent where
  compressed := by decide +kernel
  decoded := by decide +kernel
  sound := by decide +kernel

theorem unpacks_emptyMember : Unpacks emptyMember [] where
  compressed := by decide +kernel
  decoded := by decide +kernel
  sound := by decide +kernel

theorem unpacks_fiftyRowsFrame : Unpacks fiftyRowsFrame fiftyRows where
  compressed := by decide +kernel
  decoded := by decide +kernel
  sound := by decide +kernel

/-- Two compressed sources are read as their contents are. -/
theorem samples_are_transparent :
    (∀ p ∈ [(⟨"a"⟩ : Path), ⟨"b"⟩], StoresAlike (twoFiles sampleMember fiftyRowsFrame)
        (twoFiles sampleContent fiftyRows) p) ∧
      ∃ s : Session, s.Completes .standard
          (openAll .standard (twoFiles sampleMember fiftyRowsFrame) [⟨"a"⟩, ⟨"b"⟩]) ∧
        s.emittedBy 0 = [.record ⟨2, "a", ["1", "x"], some ["id", "name"]⟩] ∧
        (s.emittedBy 1).head? =
          some (.record ⟨2, "b", ["0", "n0"], some ["id", "name"]⟩) := by
  have halike : ∀ p ∈ [(⟨"a"⟩ : Path), ⟨"b"⟩], StoresAlike
      (twoFiles sampleMember fiftyRowsFrame) (twoFiles sampleContent fiftyRows) p := by
    intro p hp
    rcases List.mem_pair.1 hp with rfl | rfl
    · exact .unpacked (by rfl) (by rfl) unpacks_sampleMember (by rfl) (by decide)
        fun hmarked => absurd hmarked (by decide)
    · exact .unpacked (by rfl) (by rfl) unpacks_fiftyRowsFrame (by decide +kernel)
        (by decide +kernel) fun hmarked => absurd hmarked (by decide +kernel)
  rcases (compression_is_transparent .standard halike).1 with ⟨⟨s, hs⟩, _, hsame⟩
  rcases Session.exists_completes .standard
    (openAll .standard (twoFiles sampleContent fiftyRows) [⟨"a"⟩, ⟨"b"⟩]) with ⟨s', hs'⟩
  have hfirst : some (s'.emittedBy 0) =
      some [.record ⟨2, "a", ["1", "x"], some ["id", "name"]⟩] :=
    (hs'.emittedBy_eq_readAll (by decide)).symm.trans (by decide +kernel)
  have hsecond : some (s'.emittedBy 1).head? =
      some (some (.record ⟨2, "b", ["0", "n0"], some ["id", "name"]⟩)) :=
    (congrArg (Option.map List.head?) (hs'.emittedBy_eq_readAll (by decide))).symm.trans
      (by decide +kernel)
  refine ⟨halike, s, hs, ?_, ?_⟩
  · rw [hsame s s' hs hs' 0 (by decide)]
    exact Option.some_inj.1 hfirst
  · rw [hsame s s' hs hs' 1 (by decide)]
    exact Option.some_inj.1 hsecond

/-- A member with a byte order mark and one with lines: the mark comes alone. -/
def markMembers : List UInt8 :=
  [31, 139, 8, 0, 0, 0, 0, 0, 2, 3, 123, 191, 123, 63, 0, 225, 151, 16, 1, 3, 0, 0, 0] ++
    sampleMember

example : CutBehindMark markMembers (Csv.byteOrderMark ++ sampleContent) := by decide +kernel

/-- Without a header an empty file is an error, and a compressed file without content is none. -/
theorem empty_content_is_told_apart :
    ¬ ∀ (options : Options) (packed plain : Files) (p : Path) (bytes content : List UInt8),
      packed.read p = .ok bytes → plain.read p = .ok content → Unpacks bytes content →
      Compression.detect (content.take headSize) = .plain →
      ∀ s s' : Session, s.Completes options (openAll options packed [p]) →
        s'.Completes options (openAll options plain [p]) → s.emittedBy 0 = s'.emittedBy 0 := by
  intro hsame
  let headerless : Options := { Options.standard with hasHeader := false }
  rcases Session.exists_completes headerless
    (openAll headerless (oneFile emptyMember) [⟨"a"⟩]) with ⟨s, hs⟩
  rcases Session.exists_completes headerless (openAll headerless (oneFile []) [⟨"a"⟩]) with
    ⟨s', hs'⟩
  have hpacked : some (s.emittedBy 0) = some [] :=
    (hs.emittedBy_eq_readAll (by decide)).symm.trans (by decide +kernel)
  have hstored : some (s'.emittedBy 0) = some [.failure (.context "read" "a" 0 .emptyFile)] :=
    (hs'.emittedBy_eq_readAll (by decide)).symm.trans (by decide +kernel)
  have hemitted := hsame headerless (oneFile emptyMember) (oneFile []) ⟨"a"⟩ emptyMember []
    (by rfl) (by rfl) unpacks_emptyMember (by rfl) s s' hs hs'
  rw [Option.some_inj.1 hpacked, Option.some_inj.1 hstored] at hemitted
  cases hemitted

end Source
end RecordFlow

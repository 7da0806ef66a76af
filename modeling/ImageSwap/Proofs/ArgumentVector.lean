import ImageSwap.Proofs.Courses
import ImageSwap.Proofs.JoinedParts
import ImageSwap.Proofs.ReportAgreement

/-!
# What reaches the new image

A request without a program, or with a zero character in one of its texts, is refused before
anything is done, and the first such text is named. Every other request is put to the system exactly
once, with the program and the arguments as they were given, byte for byte and in order.
-/

namespace ImageSwap

namespace Request

/-- A text of a request that the system cannot take: a zero would end it early. -/
def Cut (arg : String) : Prop := '\x00' ∈ arg.toList

theorem not_fit_iff {r : Request} : ¬r.Fit ↔ r.program = "" ∨ ∃ arg ∈ r.argv, Cut arg := by
  simp only [Fit, Cut, not_and_or, not_not, not_forall, exists_prop]

/-- The failure of a request that names no program. -/
def unnamed : Failure := .invalidArgument "" "program name is empty"

/-- The failure of a request with a text that has a zero in it. The text is shown with a backslash
and a zero between the parts that the zeros leave. -/
def cut (arg : String) : Failure :=
  .invalidArgument (String.ofList (['\\', '0'].intercalate (Text.split '\x00' arg.toList)))
    "contains a NUL byte"

theorem showNul_eq (arg : String) :
    showNul arg = String.ofList (['\\', '0'].intercalate (Text.split '\x00' arg.toList)) := by
  rw [showNul, Text.flatMap_replace_eq_intercalate]

theorem rawArgv_of_unnamed {r : Request} (h : r.program = "") : r.rawArgv = .error unnamed :=
  if_pos h

/-- The first text with a zero in it is the one that is named. -/
theorem rawArgv_of_cut {r : Request} (hname : r.program ≠ "") {before after : List String}
    {arg : String} (hargv : r.argv = before ++ arg :: after)
    (hbefore : ∀ other ∈ before, ¬Cut other) (harg : Cut arg) : r.rawArgv = .error (cut arg) := by
  have hfind : r.argv.find? (·.toList.contains '\x00') = some arg := by
    refine List.find?_eq_some_iff_append.mpr ⟨?_, before, after, hargv, fun other h => ?_⟩
    · simpa [Cut] using harg
    · simpa [Cut] using hbefore other h
  rw [cut, ← showNul_eq, rawArgv, if_neg hname, hfind]

/-- No byte of a text without zeros is zero. -/
theorem zero_notMem_of_not_cut {arg : String} (h : ¬Cut arg) : 0 ∉ Bytes.ofString arg := by
  rw [Bytes.mem_ofString_iff (by decide)]
  exact h

end Request

namespace Run

variable {w : World} {r : Request} {j : Journal}

/-- A call for a new image refuses a request. -/
def Refuses (w : World) (r : Request) (j : Journal) : Prop :=
  ∃ argument reason, (replaceImage w r).result j = .error (.invalidArgument argument reason)

/-- What becomes of a request that is put to the system. -/
structure HandsOver (w : World) (r : Request) (j : Journal) : Prop where
  /-- The request is refused when it names no program or a text in it has a zero, and only then. -/
  refuses_iff : Refuses w r j ↔ r.program = "" ∨ ∃ arg ∈ r.program :: r.args, Request.Cut arg
  /-- A request that names no program is refused as such, and nothing is done. -/
  unnamed : r.program = "" → (replaceImage w r).runOn j = (.error Request.unnamed, j)
  /-- Of the texts with a zero the first is named, and nothing is done. -/
  cut : r.program ≠ "" → ∀ before arg after, r.program :: r.args = before ++ arg :: after →
    (∀ other ∈ before, ¬Request.Cut other) → Request.Cut arg →
      (replaceImage w r).runOn j = (.error (Request.cut arg), j)
  /-- Nothing is done for a request that is refused. -/
  untouched : Refuses w r j → ((replaceImage w r).runOn j).2 = j
  /-- For any other, the system is asked once, with the program and the arguments as they are. -/
  called : ¬Refuses w r j → ∃ made argv,
    ((replaceImage w r).runOn j).2.effects = j.effects ++ made ∧
      made.filter Effect.isCall = [.execute (Bytes.ofString r.program) argv] ∧
      argv.length = 1 + r.args.length ∧ argv[0]? = some (Bytes.ofString r.program) ∧
      argv.tail = r.args.map Bytes.ofString ∧ ∀ arg ∈ argv, 0 ∉ arg

theorem runOn_replaceImage_of_error {f : Failure} (h : r.rawArgv = .error f) :
    (replaceImage w r).runOn j = (.error f, j) := by
  rw [replaceImage, Act.runOn_bind, Act.runOn_ofExcept, h]

theorem refuses_iff_not_fit : Refuses w r j ↔ ¬r.Fit := by
  constructor
  · rintro ⟨argument, reason, hresult⟩ hfit
    rw [result_replaceImage_of_fit w hfit] at hresult
    obtain ⟨errno, -, hsame⟩ := except_mapError_eq_error_iff.mp hresult
    have hstatus := Failure.exitStatus_ofErrno_ne_two r.program errno
    rw [hsame] at hstatus
    exact hstatus rfl
  · intro hfit
    obtain ⟨argument, reason, hargv⟩ := Request.rawArgv_of_not_fit hfit
    exact ⟨argument, reason, congrArg Prod.fst (runOn_replaceImage_of_error hargv)⟩

/-- A request that is fit for the system is put to it once, whatever comes of that. -/
theorem calls_of_fit (hfit : r.Fit) : ∃ made,
    ((replaceImage w r).runOn j).2.effects = j.effects ++ made ∧
      made.filter Effect.isCall =
        [.execute (Bytes.ofString r.program) (r.argv.map Bytes.ofString)] := by
  have hargv := Request.rawArgv_of_fit hfit
  rcases hrun : (replaceImage w r).runOn j with ⟨result, after⟩
  obtain ⟨made, hmade, -, hreplacing⟩ := replacing_of_runOn hrun
  refine ⟨made, hmade, ?_⟩
  rw [← filter_isCall_deeds]
  generalize after.sigpipe = sigpipe, deeds made = done at hreplacing
  cases hreplacing with
  | unfit h => cases hargv.symm.trans h
  | found h =>
    cases hargv.symm.trans h
    rfl
  | missed h =>
    cases hargv.symm.trans h
    rfl

/-- A request is refused exactly when the system cannot take it, the first text that stands in the
way is named, and any other request reaches the system once and unchanged. -/
theorem handsOver_replaceImage (w : World) (r : Request) (j : Journal) : HandsOver w r j where
  refuses_iff := refuses_iff_not_fit.trans Request.not_fit_iff
  unnamed h := runOn_replaceImage_of_error (Request.rawArgv_of_unnamed h)
  cut hname before arg after hargv hbefore harg :=
    runOn_replaceImage_of_error (Request.rawArgv_of_cut hname hargv hbefore harg)
  untouched h := by
    obtain ⟨argument, reason, hargv⟩ := Request.rawArgv_of_not_fit (refuses_iff_not_fit.mp h)
    rw [runOn_replaceImage_of_error hargv]
  called h := by
    have hfit : r.Fit := by simpa using mt refuses_iff_not_fit.mpr h
    obtain ⟨made, hmade, hcalls⟩ := calls_of_fit (w := w) (j := j) hfit
    refine ⟨made, r.argv.map Bytes.ofString, hmade, hcalls, ?_, rfl, rfl, ?_⟩
    · rw [List.length_map, Request.argv, List.length_cons, Nat.add_comm]
    · exact List.forall_mem_map.mpr fun arg harg => Request.zero_notMem_of_not_cut (hfit.2 arg harg)

end Run

end ImageSwap

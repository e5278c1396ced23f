import Crosswalk.Job.Basic

/-!
# Listing masks

Every mask with what it makes of a sample.
-/

set_option autoImplicit false

namespace Crosswalk.Job

/-- A text on which masks show what they do. -/
def maskSample : String :=
  "  new YORK city "

/-- The names of masks, each with the sample under the mask. -/
def maskedSamples (registry : Registry) : List (String × String) :=
  registry.masks.map fun (name, mask) => (name, mask maskSample)

def masksJson (registry : Registry) : Json :=
  .array ((maskedSamples registry).map fun (name, masked) =>
    .object
      [("name", .string name), ("sample_input", .string maskSample),
        ("sample_output", .string masked)])

def masksItems (registry : Registry) : List Printed :=
  [.heading "Transform Masks",
    .table ["Mask", "Example"] ((maskedSamples registry).map fun (name, masked) =>
      [name, Text.quoted maskSample ++ " -> " ++ Text.quoted masked])]

def masks (session : Session) : Job Unit :=
  print session
    (if session.console.format = .human then masksItems Registry.builtIn
    else [.data (masksJson Registry.builtIn)])

end Crosswalk.Job

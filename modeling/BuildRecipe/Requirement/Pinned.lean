/-
The pinned requirements of the packaged FMU and the rules that choose among them: five host
libraries always; the archive and argument-parser libraries with the tools; CMake and the FMU
build helper always; the compliance checker and the test framework with the tests; doxygen with
the documentation, and a perl interpreter as well on Windows.
-/
import BuildRecipe.Options
import BuildRecipe.Requirement.Graph

namespace BuildRecipe.Requirement

/-- a pinned package version, possibly in the `sintef/stable` channel -/
def pin (name : Package.Name) (version : String) (channel : Bool := false) : Package.Reference :=
  { name, version, userChannel := if channel then some ("sintef", "stable") else none }

/-- the FMI shim library -/
def fmiShim : Package.Reference := pin ⟨"cppfmu", by decide⟩ "1.0.0" true
/-- the DDS middleware -/
def ddsMiddleware : Package.Reference := pin ⟨"fast-dds", by decide⟩ "2.11.2"
/-- the UUID library -/
def uuidLib : Package.Reference := pin ⟨"stduuid", by decide⟩ "1.2.3"
/-- the XML parser -/
def xmlParser : Package.Reference := pin ⟨"rapidxml", by decide⟩ "1.13"
/-- the dynamic types library -/
def xtypesLib : Package.Reference := pin ⟨"eprosima-xtypes", by decide⟩ "cci.20230615" true
/-- the archive library of the tools -/
def archiveLib : Package.Reference := pin ⟨"kuba-zip", by decide⟩ "0.3.2"
/-- the argument parser of the tools -/
def argParser : Package.Reference := pin ⟨"taywee-args", by decide⟩ "6.4.6"
/-- the native build tool -/
def nativeBuildTool : Package.Reference := pin ⟨"cmake", by decide⟩ "[>=3.18.0 <4]"
/-- the FMU build helper -/
def buildHelper : Package.Reference := pin ⟨"fmu-build-helper", by decide⟩ "1.0.0" true
/-- the FMU compliance checker -/
def complianceChecker : Package.Reference := pin ⟨"fmu-compliance-checker", by decide⟩ "2.0.4" true
/-- the unit test framework -/
def testFramework : Package.Reference := pin ⟨"gtest", by decide⟩ "1.13.0"
/-- the documentation generator -/
def docGenerator : Package.Reference := pin ⟨"doxygen", by decide⟩ "1.9.4"
/-- the script interpreter the documentation needs on Windows -/
def scriptInterpreter : Package.Reference := pin ⟨"strawberryperl", by decide⟩ "5.32.1.1"

/-- the host libraries every build needs -/
def baselineHost : List Package.Reference := [fmiShim, ddsMiddleware, uuidLib, xmlParser, xtypesLib]

/-- the requirements and their roles, in order, for the options, tests and settings -/
def pinnedList (options : ResolvedOptions) (withTests : Bool) (settings : Settings) :
    List (Package.Reference × Role) :=
  baselineHost.map (·, .host) ++
  (if options.withTools then [(archiveLib, .host), (argParser, .host)] else []) ++
  [(nativeBuildTool, .buildTool), (buildHelper, .buildTool)] ++
  (if withTests then [(complianceChecker, .buildTool), (testFramework, .test)] else []) ++
  (if options.withDoc then [(docGenerator, .buildTool)] else []) ++
  (if options.withDoc && settings.isWindows then [(scriptInterpreter, .buildTool)] else [])

/-- the requirement graph of the packaged FMU -/
def requirements (options : ResolvedOptions) (withTests : Bool) (settings : Settings) : Graph :=
  (pinnedList options withTests settings).foldl (fun g (r, role) => g.push r role) {}

end BuildRecipe.Requirement

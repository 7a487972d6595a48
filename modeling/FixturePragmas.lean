import FixturePragmas.CommandLine.Program
import FixturePragmas.Files.Tree
import FixturePragmas.Json.Decoder
import FixturePragmas.Log.Template
import FixturePragmas.Main
import FixturePragmas.Proofs.CommandLine.Formats
import FixturePragmas.Proofs.CommandLine.Listing
import FixturePragmas.Proofs.CommandLine.StartUp
import FixturePragmas.Proofs.CommandLine.Verbosity
import FixturePragmas.Proofs.Declaration.Groups
import FixturePragmas.Proofs.Declaration.Longest
import FixturePragmas.Proofs.Dialect.Shadowing
import FixturePragmas.Proofs.Line.Openers
import FixturePragmas.Proofs.Pragma
import FixturePragmas.Proofs.Scan.Failure
import FixturePragmas.Proofs.Scan.Log
import FixturePragmas.Proofs.Scan.Prose
import FixturePragmas.Proofs.Scan.RoundTrip
import FixturePragmas.Proofs.Scan.Spacing
import FixturePragmas.Proofs.Settings.Acceptance
import FixturePragmas.Proofs.Settings.Overlay
import FixturePragmas.Proofs.Settings.Routes

import Oneshot.CommandLine.Listing
import Oneshot.Main
import Oneshot.Proofs.Cache.Failing
import Oneshot.Proofs.Cache.History
import Oneshot.Proofs.Cache.Race
import Oneshot.Proofs.CommandLine.Agreement
import Oneshot.Proofs.CommandLine.Diagnostics
import Oneshot.Proofs.CommandLine.Forwarding
import Oneshot.Proofs.CommandLine.Telling
import Oneshot.Proofs.Console.Highlighting
import Oneshot.Proofs.Pipeline.Reporting
import Oneshot.Proofs.Program.Crates
import Oneshot.Proofs.Program.Grouping
import Oneshot.Proofs.Program.Lossless
import Oneshot.Proofs.Program.Wrapper
import Oneshot.Proofs.Settings.Assigning
import Oneshot.Proofs.Settings.Loading
import Oneshot.Proofs.Settings.Merging
import Oneshot.Proofs.Settings.Override
import Oneshot.Proofs.Snippet.Joining
import Oneshot.Proofs.Snippet.Spans
import Oneshot.Proofs.Snippet.Stripping
import Oneshot.Proofs.Toolchain.Linking
import Oneshot.Proofs.Toolchain.Mirror
import Oneshot.Proofs.Toolchain.Obstruction
import Oneshot.Virtual.Setup

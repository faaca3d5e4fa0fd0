import SpokeSim.FileTree
import SpokeSim.Main
import SpokeSim.Proofs.BestEffort
import SpokeSim.Proofs.Clearing
import SpokeSim.Proofs.Codec.Rewriting
import SpokeSim.Proofs.CommandLine
import SpokeSim.Proofs.Departures
import SpokeSim.Proofs.Listing
import SpokeSim.Proofs.Mounts
import SpokeSim.Proofs.Postings
import SpokeSim.Proofs.Provenance
import SpokeSim.Proofs.ReadOnly
import SpokeSim.Proofs.Restart
import SpokeSim.Proofs.Resumption
import SpokeSim.Proofs.Startup
import SpokeSim.Proofs.Teardown
import SpokeSim.Proofs.Undo
import SpokeSim.Proofs.Writes
import SpokeSim.Session

import TableMachines.Catalog
import TableMachines.Journal
import TableMachines.Proofs.BoundedRuns
import TableMachines.Proofs.BuildFinite
import TableMachines.Proofs.BuildTuring
import TableMachines.Proofs.BusyBeaver
import TableMachines.Proofs.CatalogLanguages
import TableMachines.Proofs.Fingerprint
import TableMachines.Proofs.Language
import TableMachines.Proofs.Mirror
import TableMachines.Proofs.Numbering
import TableMachines.Proofs.Operations
import TableMachines.Proofs.Queries
import TableMachines.Proofs.Reencoding
import TableMachines.Proofs.Relabelling
import TableMachines.Proofs.Safety
import TableMachines.Proofs.SharedTable
import TableMachines.Proofs.Transcript
import TableMachines.Proofs.TypedScanner
import TableMachines.Proofs.WideScanner
import TableMachines.Serial

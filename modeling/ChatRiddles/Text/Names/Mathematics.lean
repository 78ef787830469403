import ChatRiddles.Text.Names.Run
/-!
The names of music, mathematical letters, and further scripts.
-/

namespace ChatRiddles.Text.Names

/-- The names of music, mathematical letters, and further scripts. -/
def mathematics : List Run := [
  ⟨0x1d000, "
aBYZANTINE MUSICAL SYMBOL PSILIzDASEIAzPERISPOMENIzOXEIA EKFONITIKONzOXEIA DIPLI
zVAREIA EKFONITIKONzVAREIA DIPLIzKATHISTIzSYRMATIKIzPARAKLITIKIzYPOKRISISzYPOKRISIS DIPLI
zKREMASTIzAPESO EKFONITIKONzEXO EKFONITIKONzTELEIAzKENTIMATAzAPOSTROFOSzAPOSTROFOS DIPLIzSYNEVMA
zTHITAzOLIGON ARCHAIONzGORGON ARCHAIONzPSILONzCHAMILONzVATHYzISON ARCHAIONzKENTIMA ARCHAION
zKENTIMATA ARCHAIONzSAXIMATAzPARICHONzSTAVROS APODEXIAzOXEIAI ARCHAIONzVAREIAI ARCHAION
zAPODERMA ARCHAIONzAPOTHEMAzKLASMAzREVMAzPIASMA ARCHAIONzTINAGMAzANATRICHISMAzSEISMA
zSYNAGMA ARCHAIONzSYNAGMA META STAVROUzOYRANISMA ARCHAIONzTHEMAzLEMOIzDYOzTRIAzTESSERAzKRATIMATA
zAPESO EXO NEOzFTHORA ARCHAIONzIMIFTHORAzTROMIKON ARCHAIONzKATAVA TROMIKONzPELASTONzPSIFISTON
zKONTEVMAzCHOREVMA ARCHAIONzRAPISMAzPARAKALESMA ARCHAIONzPARAKLITIKI ARCHAIONzICHADINzNANA
zPETASMAzKONTEVMA ALLOzTROMIKON ALLOzSTRAGGISMATAzGRONTHISMATAzISON NEOzOLIGON NEOzOXEIA NEO
zPETASTIzKOUFISMAzPETASTOKOUFISMAzKRATIMOKOUFISMAzPELASTON NEOzKENTIMATA NEO ANOzKENTIMA NEO ANO
zYPSILIzAPOSTROFOS NEOzAPOSTROFOI SYNDESMOS NEOzYPORROIzKRATIMOYPORROONzELAFRONzCHAMILI
zMIKRON ISONzVAREIA NEOzPIASMA NEOzPSIFISTON NEOzOMALONzANTIKENOMAzLYGISMAzPARAKLITIKI NEO
zPARAKALESMA NEOzETERON PARAKALESMAzKYLISMAzANTIKENOKYLISMAzTROMIKON NEOzEKSTREPTONzSYNAGMA NEO
zSYRMAzCHOREVMA NEOzEPEGERMAzSEISMA NEOzXIRON KLASMAzTROMIKOPSIFISTONzPSIFISTOLYGISMA
zTROMIKOLYGISMAzTROMIKOPARAKALESMAzPSIFISTOPARAKALESMAzTROMIKOSYNAGMAzPSIFISTOSYNAGMA
zGORGOSYNTHETONzARGOSYNTHETONzETERON ARGOSYNTHETONzOYRANISMA NEOzTHEMATISMOS ESOzTHEMATISMOS EXO
zTHEMA APLOUNzTHES KAI APOTHESzKATAVASMAzENDOFONONzYFEN KATOzYFEN ANOzSTAVROSzKLASMA ANO
zDIPLI ARCHAIONzKRATIMA ARCHAIONzKRATIMA ALLOzKRATIMA NEOzAPODERMA NEOzAPLIzDIPLIzTRIPLI
zTETRAPLIzKORONISzLEIMMA ENOS CHRONOUzLEIMMA DYO CHRONONzLEIMMA TRION CHRONON
zLEIMMA TESSARON CHRONONzLEIMMA IMISEOS CHRONOUzGORGON NEO ANOzGORGON PARESTIGMENON ARISTERA
zGORGON PARESTIGMENON DEXIAzDIGORGONzDIGORGON PARESTIGMENON ARISTERA KATO
zDIGORGON PARESTIGMENON ARISTERA ANOzDIGORGON PARESTIGMENON DEXIAzTRIGORGONzARGONzIMIDIARGON
zDIARGONzAGOGI POLI ARGIzAGOGI ARGOTERIzAGOGI ARGIzAGOGI METRIAzAGOGI MESIzAGOGI GORGI
zAGOGI GORGOTERIzAGOGI POLI GORGIzMARTYRIA PROTOS ICHOSzMARTYRIA ALLI PROTOS ICHOS
zMARTYRIA DEYTEROS ICHOSzMARTYRIA ALLI DEYTEROS ICHOSzMARTYRIA TRITOS ICHOSzMARTYRIA TRIFONIAS
zMARTYRIA TETARTOS ICHOSzMARTYRIA TETARTOS LEGETOS ICHOSzMARTYRIA LEGETOS ICHOS
zMARTYRIA PLAGIOS ICHOSzISAKIA TELOUS ICHIMATOSzAPOSTROFOI TELOUS ICHIMATOS
zFANEROSIS TETRAFONIASzFANEROSIS MONOFONIASzFANEROSIS DIFONIASzMARTYRIA VARYS ICHOS
zMARTYRIA PROTOVARYS ICHOSzMARTYRIA PLAGIOS TETARTOS ICHOSzGORTHMIKON N APLOUN
zGORTHMIKON N DIPLOUNzENARXIS KAI FTHORA VOUzIMIFONONzIMIFTHORONzFTHORA ARCHAION DEYTEROU ICHOU
zFTHORA DIATONIKI PAzFTHORA DIATONIKI NANAzFTHORA NAOS ICHOSzFTHORA DIATONIKI DI
zFTHORA SKLIRON DIATONON DIzFTHORA DIATONIKI KEzFTHORA DIATONIKI ZOzFTHORA DIATONIKI NI KATO
zFTHORA DIATONIKI NI ANOzFTHORA MALAKON CHROMA DIFONIASzFTHORA MALAKON CHROMA MONOFONIAS
zFHTORA SKLIRON CHROMA VASISzFTHORA SKLIRON CHROMA SYNAFIzFTHORA NENANOzCHROA ZYGOSzCHROA KLITON
zCHROA SPATHIzFTHORA I YFESIS TETARTIMORIONzFTHORA ENARMONIOS ANTIFONIAzYFESIS TRITIMORION
zDIESIS TRITIMORIONzDIESIS TETARTIMORIONzDIESIS APLI DYO DODEKATA
zDIESIS MONOGRAMMOS TESSERA DODEKATAzDIESIS DIGRAMMOS EX DODEKATA
zDIESIS TRIGRAMMOS OKTO DODEKATAzYFESIS APLI DYO DODEKATAzYFESIS MONOGRAMMOS TESSERA DODEKATA
zYFESIS DIGRAMMOS EX DODEKATAzYFESIS TRIGRAMMOS OKTO DODEKATAzGENIKI DIESISzGENIKI YFESIS
zDIASTOLI APLI MIKRIzDIASTOLI APLI MEGALIzDIASTOLI DIPLIzDIASTOLI THESEOSzSIMANSIS THESEOS
zSIMANSIS THESEOS DISIMOUzSIMANSIS THESEOS TRISIMOUzSIMANSIS THESEOS TETRASIMOUzSIMANSIS ARSEOS
zSIMANSIS ARSEOS DISIMOUzSIMANSIS ARSEOS TRISIMOUzSIMANSIS ARSEOS TETRASIMOUzDIGRAMMA GG
zDIFTOGGOS OUzSTIGMAzARKTIKO PAzARKTIKO VOUzARKTIKO GAzARKTIKO DIzARKTIKO KEzARKTIKO ZO
zARKTIKO NIzKENTIMATA NEO MESOzKENTIMA NEO MESOzKENTIMATA NEO KATOzKENTIMA NEO KATOzKLASMA KATO
zGORGON NEO KATO"⟩,
  ⟨0x1d100, "
aMUSICAL SYMBOL SINGLE BARLINEpDOUBLE BARLINEpFINAL BARLINEpREVERSE FINAL BARLINEpDASHED BARLINE
pSHORT BARLINEpLEFT REPEAT SIGNpRIGHT REPEAT SIGNqEPEAT DOTSpDAL SEGNOr CAPOpSEGNOpCODA
pREPEATED FIGURE-1zIGURE-2zIGURE-3pFERMATAw BELOWpBREATH MARKpCAESURApBRACEtKETpONE-LINE STAFF
pTWO-LINE STAFFqHREE-LINE STAFFpFOUR-LINE STAFFqIVE-LINE STAFFpSIX-LINE STAFFtSTRING FRETBOARD
pFOUR-STRING FRETBOARDpG CLEFv OTTAVA ALTAzAVA BASSApC CLEFpF CLEFv OTTAVA ALTAzAVA BASSA
pDRUM CLEF-1z2"⟩,
  ⟨0x1d129, "
aMUSICAL SYMBOL MULTIPLE MEASURE RESTpDOUBLE SHARPwFLATpFLAT UPuDOWNpNATURAL UPxDOWNpSHARP UP
vDOWNpQUARTER TONE SHARPzNE FLATpCOMMON TIMEqUT TIMEpOTTAVA ALTAwBASSApQUINDICESIMA ALTA
zMA BASSApMULTI RESTpWHOLE RESTpHALF RESTpQUARTER RESTpEIGHTH RESTpSIXTEENTH REST
pTHIRTY-SECOND RESTpSIXTY-FOURTH RESTpONE HUNDRED TWENTY-EIGHTH RESTpX NOTEHEADpPLUS NOTEHEAD
pCIRCLE X NOTEHEADpSQUARE NOTEHEAD WHITEzEHEAD BLACKpTRIANGLE NOTEHEAD UP WHITEzOTEHEAD UP BLACK
zOTEHEAD LEFT WHITEzOTEHEAD LEFT BLACKzOTEHEAD RIGHT WHITEzOTEHEAD RIGHT BLACK
zOTEHEAD DOWN WHITEzOTEHEAD DOWN BLACKzOTEHEAD UP RIGHT WHITEzOTEHEAD UP RIGHT BLACK
pMOON NOTEHEAD WHITEzEAD BLACKpTRIANGLE-ROUND NOTEHEAD DOWN WHITEzOUND NOTEHEAD DOWN BLACK
pPARENTHESIS NOTEHEADpVOID NOTEHEADpNOTEHEAD BLACKqULL NOTEHEADpCLUSTER NOTEHEAD WHITE
zTEHEAD BLACKpBREVEpWHOLE NOTEpHALF NOTEpQUARTER NOTEpEIGHTH NOTEpSIXTEENTH NOTE
pTHIRTY-SECOND NOTEpSIXTY-FOURTH NOTEpONE HUNDRED TWENTY-EIGHTH NOTEpCOMBINING STEM
zSPRECHGESANG STEMzTREMOLO-1zTREMOLO-2zTREMOLO-3pFINGERED TREMOLO-1zREMOLO-2zREMOLO-3
pCOMBINING AUGMENTATION DOTzFLAG-1zFLAG-2zFLAG-3zFLAG-4zFLAG-5pBEGIN BEAMpEND BEAMpBEGIN TIE
pEND TIEpBEGIN SLURpEND SLURpBEGIN PHRASEpEND PHRASEpCOMBINING ACCENTzSTACCATOzTENUTO
zSTACCATISSIMOzMARCATOzMARCATO-STACCATOzACCENT-STACCATOzLOUREpARPEGGIATO UPz DOWNpCOMBINING DOIT
zRIPzFLIPzSMEARzBENDzDOUBLE TONGUEzTRIPLE TONGUEpRINFORZANDOpSUBITOpZpPIANOpMEZZOpFORTE
pCRESCENDOpDECRESCENDOpGRACE NOTE SLASHz NO SLASHpTRqURNpINVERTED TURNpTURN SLASHuUP
pORNAMENT STROKE-1zTROKE-2zTROKE-3zTROKE-4zTROKE-5zTROKE-6zTROKE-7zTROKE-8zTROKE-9zTROKE-10
zTROKE-11pHAUPTSTIMMEpNEBENSTIMMEpEND OF STIMMEpDEGREE SLASHpCOMBINING DOWN BOWzUP BOWzHARMONIC
zSNAP PIZZICATOpPEDAL MARKvUP MARKpHALF PEDAL MARKpGLISSANDO UPzDOWNpWITH FINGERNAILSpDAMPt ALL
pMAXIMApLONGApBREVISpSEMIBREVIS WHITEz BLACKpMINIMAv BLACKpSEMIMINIMA WHITEz BLACKpFUSA WHITE
uBLACKpLONGA PERFECTA RESTvIMPERFECTA RESTpBREVIS RESTpSEMIBREVIS RESTpMINIMA REST
pSEMIMINIMA RESTpTEMPUS PERFECTUM CUM PROLATIONE PERFECTAzFECTUM CUM PROLATIONE IMPERFECTA
zFECTUM CUM PROLATIONE PERFECTA DIMINUTION-1wIMPERFECTUM CUM PROLATIONE PERFECTA
zERFECTUM CUM PROLATIONE IMPERFECTAzERFECTUM CUM PROLATIONE IMPERFECTA DIMINUTION-1
zERFECTUM CUM PROLATIONE IMPERFECTA DIMINUTION-2zERFECTUM CUM PROLATIONE IMPERFECTA DIMINUTION-3
pCROIXpGREGORIAN C CLEFzF CLEFpSQUARE BpVIRGApPODATUSpCLIVISpSCANDICUSpCLIMACUSpTORCULUS
pPORRECTUSy FLEXUSpSCANDICUS FLEXUSpTORCULUS RESUPINUSpPES SUBPUNCTISpKIEVAN C CLEFwEND OF PIECE
wFINAL NOTEwRECITATIVE MARKwWHOLE NOTEwHALF NOTEwQUARTER NOTE STEM DOWNzRTER NOTE STEM UP
wEIGHTH NOTE STEM DOWNzHTH NOTE STEM UPwFLAT SIGNpSORIpKORON"⟩,
  ⟨0x1d200, "
aGREEK VOCAL NOTATION SYMBOL-1zOL-2zOL-3zOL-4zOL-5zOL-6zOL-7zOL-8zOL-9zOL-10zOL-11zOL-12zOL-13
zOL-14zOL-15zOL-16zOL-17zOL-18zOL-19zOL-20zOL-21zOL-22zOL-23zOL-24zOL-50zOL-51zOL-52zOL-53zOL-54
gINSTRUMENTAL NOTATION SYMBOL-1zON SYMBOL-2zON SYMBOL-4zON SYMBOL-5zON SYMBOL-7zON SYMBOL-8
zON SYMBOL-11zON SYMBOL-12zON SYMBOL-13zON SYMBOL-14zON SYMBOL-17zON SYMBOL-18zON SYMBOL-19
zON SYMBOL-23zON SYMBOL-24zON SYMBOL-25zON SYMBOL-26zON SYMBOL-27zON SYMBOL-29zON SYMBOL-30
zON SYMBOL-32zON SYMBOL-36zON SYMBOL-37zON SYMBOL-38zON SYMBOL-39zON SYMBOL-40zON SYMBOL-42
zON SYMBOL-43zON SYMBOL-45zON SYMBOL-47zON SYMBOL-48zON SYMBOL-49zON SYMBOL-50zON SYMBOL-51
zON SYMBOL-52zON SYMBOL-53zON SYMBOL-54aCOMBINING GREEK MUSICAL TRISEMEzETRASEMEyPENTASEME
aGREEK MUSICAL LEIMMA"⟩,
  ⟨0x1d2e0, "
aMAYAN NUMERAL ZEROoONEoTWOpHREEoFOURpIVEoSIXpEVENoEIGHToNINEoTENoELEVENoTWELVEpHIRTEENoFOURTEEN
pIFTEENoSIXTEENpEVENTEENoEIGHTEENoNINETEEN"⟩,
  ⟨0x1d300, "
aMONOGRAM FOR EARTHaDIGRAM FOR HEAVENLY EARTHmUMAN EARTHlEARTHLY HEAVENuUMANq
aTETRAGRAM FOR CENTREoFULL CIRCLEoMIREDoBARRIERoKEEPING SMALLoCONTRARIETYoASCENToOPPOSITION
oBRANCHING OUToDEFECTIVENESS OR DISTORTIONpIVERGENCEoYOUTHFULNESSoINCREASEoPENETRATIONoREACH
oCONTACToHOLDING BACKoWAITINGoFOLLOWINGoADVANCEoRELEASEqSISTANCEoEASEoJOYoCONTENTIONoENDEAVOUR
oDUTIESoCHANGEoDECISIVENESSoBOLD RESOLUTIONoPACKINGoLEGIONoCLOSENESSoKINSHIPoGATHERINGoSTRENGTH
oPURITYoFULLNESSoRESIDENCEoLAW OR MODELoRESPONSEoGOING TO MEEToENCOUNTERSoSTOVEoGREATNESS
oENLARGEMENToPATTERNoRITUALoFLIGHToVASTNESS OR WASTINGoCONSTANCYoMEASUREoETERNITYoUNITY
oDIMINISHMENToCLOSED MOUTHoGUARDEDNESSpATHERING INoMASSINGoACCUMULATIONoEMBELLISHMENToDOUBT
oWATCHoSINKINGoINNERoDEPARTUREpARKENINGpIMMINGoEXHAUSTIONoSEVERANCEpTOPPAGEoHARDNESSoCOMPLETION
pLOSUREoFAILUREoAGGRAVATIONoCOMPLIANCEoON THE VERGEoDIFFICULTIESoLABOURINGoFOSTERING"⟩,
  ⟨0x1d360, "
aCOUNTING ROD UNIT DIGIT ONEyTWOzHREEyFOURzIVEySIXzEVENyEIGHTyNINEnTENS DIGIT ONEyTWOzHREEyFOUR
zIVEySIXzEVENyEIGHTyNINEaIDEOGRAPHIC TALLY MARK ONExTWOyHREExFOURyIVEaTALLY MARK ONElFIVE"⟩,
  ⟨0x1d400, "
aMATHEMATICAL BOLD CAPITAL Az Bz Cz Dz Ez Fz Gz Hz Iz Jz Kz Lz Mz Nz Oz Pz Qz Rz Sz Tz Uz Vz W
z Xz Yz ZsSMALL AyByCyDyEyFyGyHyIyJyKyLyMyNyOyPyQyRySyTyUyVyWyXyYyZnITALIC CAPITAL AzAL BzAL C
zAL DzAL EzAL FzAL GzAL HzAL IzAL JzAL KzAL LzAL MzAL NzAL OzAL PzAL QzAL RzAL SzAL TzAL UzAL V
zAL WzAL XzAL YzAL ZuSMALL Az Bz Cz Dz Ez Fz G"⟩,
  ⟨0x1d456, "
aMATHEMATICAL ITALIC SMALL Iz Jz Kz Lz Mz Nz Oz Pz Qz Rz Sz Tz Uz Vz Wz Xz Yz Z
nBOLD ITALIC CAPITAL AzCAPITAL BzCAPITAL CzCAPITAL DzCAPITAL EzCAPITAL FzCAPITAL GzCAPITAL H
zCAPITAL IzCAPITAL JzCAPITAL KzCAPITAL LzCAPITAL MzCAPITAL NzCAPITAL OzCAPITAL PzCAPITAL Q
zCAPITAL RzCAPITAL SzCAPITAL TzCAPITAL UzCAPITAL VzCAPITAL WzCAPITAL XzCAPITAL YzCAPITAL Z
zSMALL AzSMALL BzSMALL CzSMALL DzSMALL EzSMALL FzSMALL GzSMALL HzSMALL IzSMALL JzSMALL KzSMALL L
zSMALL MzSMALL NzSMALL OzSMALL PzSMALL QzSMALL RzSMALL SzSMALL TzSMALL UzSMALL VzSMALL WzSMALL X
zSMALL YzSMALL ZnSCRIPT CAPITAL A"⟩,
  ⟨0x1d49e, "aMATHEMATICAL SCRIPT CAPITAL CzAL D"⟩,
  ⟨0x1d4a2, "aMATHEMATICAL SCRIPT CAPITAL G"⟩,
  ⟨0x1d4a5, "aMATHEMATICAL SCRIPT CAPITAL JzAL K"⟩,
  ⟨0x1d4a9, "aMATHEMATICAL SCRIPT CAPITAL NzAL OzAL PzAL Q"⟩,
  ⟨0x1d4ae, "
aMATHEMATICAL SCRIPT CAPITAL SzAL TzAL UzAL VzAL WzAL XzAL YzAL ZuSMALL Az Bz Cz D"⟩,
  ⟨0x1d4bb, "aMATHEMATICAL SCRIPT SMALL F"⟩,
  ⟨0x1d4bd, "aMATHEMATICAL SCRIPT SMALL Hz Iz Jz Kz Lz Mz N"⟩,
  ⟨0x1d4c5, "
aMATHEMATICAL SCRIPT SMALL Pz Qz Rz Sz Tz Uz Vz Wz Xz Yz ZnBOLD SCRIPT CAPITAL AzCAPITAL B
zCAPITAL CzCAPITAL DzCAPITAL EzCAPITAL FzCAPITAL GzCAPITAL HzCAPITAL IzCAPITAL JzCAPITAL K
zCAPITAL LzCAPITAL MzCAPITAL NzCAPITAL OzCAPITAL PzCAPITAL QzCAPITAL RzCAPITAL SzCAPITAL T
zCAPITAL UzCAPITAL VzCAPITAL WzCAPITAL XzCAPITAL YzCAPITAL ZzSMALL AzSMALL BzSMALL CzSMALL D
zSMALL EzSMALL FzSMALL GzSMALL HzSMALL IzSMALL JzSMALL KzSMALL LzSMALL MzSMALL NzSMALL OzSMALL P
zSMALL QzSMALL RzSMALL SzSMALL TzSMALL UzSMALL VzSMALL WzSMALL XzSMALL YzSMALL Z
nFRAKTUR CAPITAL AzTAL B"⟩,
  ⟨0x1d507, "aMATHEMATICAL FRAKTUR CAPITAL DzTAL EzTAL FzTAL G"⟩,
  ⟨0x1d50d, "aMATHEMATICAL FRAKTUR CAPITAL JzTAL KzTAL LzTAL MzTAL NzTAL OzTAL PzTAL Q"⟩,
  ⟨0x1d516, "aMATHEMATICAL FRAKTUR CAPITAL SzTAL TzTAL UzTAL VzTAL WzTAL XzTAL Y"⟩,
  ⟨0x1d51e, "
aMATHEMATICAL FRAKTUR SMALL AzL BzL CzL DzL EzL FzL GzL HzL IzL JzL KzL LzL MzL NzL OzL PzL Q
zL RzL SzL TzL UzL VzL WzL XzL YzL ZnDOUBLE-STRUCK CAPITAL AzK CAPITAL B"⟩,
  ⟨0x1d53b, "aMATHEMATICAL DOUBLE-STRUCK CAPITAL DzK CAPITAL EzK CAPITAL FzK CAPITAL G"⟩,
  ⟨0x1d540, "
aMATHEMATICAL DOUBLE-STRUCK CAPITAL IzK CAPITAL JzK CAPITAL KzK CAPITAL LzK CAPITAL M"⟩,
  ⟨0x1d546, "aMATHEMATICAL DOUBLE-STRUCK CAPITAL O"⟩,
  ⟨0x1d54a, "
aMATHEMATICAL DOUBLE-STRUCK CAPITAL SzK CAPITAL TzK CAPITAL UzK CAPITAL VzK CAPITAL W
zK CAPITAL XzK CAPITAL Y"⟩,
  ⟨0x1d552, "
aMATHEMATICAL DOUBLE-STRUCK SMALL AzK SMALL BzK SMALL CzK SMALL DzK SMALL EzK SMALL FzK SMALL G
zK SMALL HzK SMALL IzK SMALL JzK SMALL KzK SMALL LzK SMALL MzK SMALL NzK SMALL OzK SMALL P
zK SMALL QzK SMALL RzK SMALL SzK SMALL TzK SMALL UzK SMALL VzK SMALL WzK SMALL XzK SMALL Y
zK SMALL ZnBOLD FRAKTUR CAPITAL Az CAPITAL Bz CAPITAL Cz CAPITAL Dz CAPITAL Ez CAPITAL F
z CAPITAL Gz CAPITAL Hz CAPITAL Iz CAPITAL Jz CAPITAL Kz CAPITAL Lz CAPITAL Mz CAPITAL N
z CAPITAL Oz CAPITAL Pz CAPITAL Qz CAPITAL Rz CAPITAL Sz CAPITAL Tz CAPITAL Uz CAPITAL V
z CAPITAL Wz CAPITAL Xz CAPITAL Yz CAPITAL Zz SMALL Az SMALL Bz SMALL Cz SMALL Dz SMALL E
z SMALL Fz SMALL Gz SMALL Hz SMALL Iz SMALL Jz SMALL Kz SMALL Lz SMALL Mz SMALL Nz SMALL O
z SMALL Pz SMALL Qz SMALL Rz SMALL Sz SMALL Tz SMALL Uz SMALL Vz SMALL Wz SMALL Xz SMALL Y
z SMALL ZnSANS-SERIF CAPITAL AzAPITAL BzAPITAL CzAPITAL DzAPITAL EzAPITAL FzAPITAL GzAPITAL H
zAPITAL IzAPITAL JzAPITAL KzAPITAL LzAPITAL MzAPITAL NzAPITAL OzAPITAL PzAPITAL QzAPITAL R
zAPITAL SzAPITAL TzAPITAL UzAPITAL VzAPITAL WzAPITAL XzAPITAL YzAPITAL ZySMALL AzMALL BzMALL C
zMALL DzMALL EzMALL FzMALL GzMALL HzMALL IzMALL JzMALL KzMALL LzMALL MzMALL NzMALL OzMALL P
zMALL QzMALL RzMALL SzMALL TzMALL UzMALL VzMALL WzMALL XzMALL YzMALL ZyBOLD CAPITAL A
zOLD CAPITAL BzOLD CAPITAL CzOLD CAPITAL DzOLD CAPITAL EzOLD CAPITAL FzOLD CAPITAL G
zOLD CAPITAL HzOLD CAPITAL IzOLD CAPITAL JzOLD CAPITAL KzOLD CAPITAL LzOLD CAPITAL M
zOLD CAPITAL NzOLD CAPITAL OzOLD CAPITAL PzOLD CAPITAL QzOLD CAPITAL RzOLD CAPITAL S
zOLD CAPITAL TzOLD CAPITAL UzOLD CAPITAL VzOLD CAPITAL WzOLD CAPITAL XzOLD CAPITAL Y
zOLD CAPITAL ZzOLD SMALL AzOLD SMALL BzOLD SMALL CzOLD SMALL DzOLD SMALL EzOLD SMALL F
zOLD SMALL GzOLD SMALL HzOLD SMALL IzOLD SMALL JzOLD SMALL KzOLD SMALL LzOLD SMALL MzOLD SMALL N
zOLD SMALL OzOLD SMALL PzOLD SMALL QzOLD SMALL RzOLD SMALL SzOLD SMALL TzOLD SMALL UzOLD SMALL V
zOLD SMALL WzOLD SMALL XzOLD SMALL YzOLD SMALL ZyITALIC CAPITAL AzTALIC CAPITAL B
zTALIC CAPITAL CzTALIC CAPITAL DzTALIC CAPITAL EzTALIC CAPITAL FzTALIC CAPITAL GzTALIC CAPITAL H
zTALIC CAPITAL IzTALIC CAPITAL JzTALIC CAPITAL KzTALIC CAPITAL LzTALIC CAPITAL MzTALIC CAPITAL N
zTALIC CAPITAL OzTALIC CAPITAL PzTALIC CAPITAL QzTALIC CAPITAL RzTALIC CAPITAL SzTALIC CAPITAL T
zTALIC CAPITAL UzTALIC CAPITAL VzTALIC CAPITAL WzTALIC CAPITAL XzTALIC CAPITAL YzTALIC CAPITAL Z
zTALIC SMALL AzTALIC SMALL BzTALIC SMALL CzTALIC SMALL DzTALIC SMALL EzTALIC SMALL F
zTALIC SMALL GzTALIC SMALL HzTALIC SMALL IzTALIC SMALL JzTALIC SMALL KzTALIC SMALL L
zTALIC SMALL MzTALIC SMALL NzTALIC SMALL OzTALIC SMALL PzTALIC SMALL QzTALIC SMALL R
zTALIC SMALL SzTALIC SMALL TzTALIC SMALL UzTALIC SMALL VzTALIC SMALL WzTALIC SMALL X
zTALIC SMALL YzTALIC SMALL ZyBOLD ITALIC CAPITAL AzOLD ITALIC CAPITAL BzOLD ITALIC CAPITAL C
zOLD ITALIC CAPITAL DzOLD ITALIC CAPITAL EzOLD ITALIC CAPITAL FzOLD ITALIC CAPITAL G
zOLD ITALIC CAPITAL HzOLD ITALIC CAPITAL IzOLD ITALIC CAPITAL JzOLD ITALIC CAPITAL K
zOLD ITALIC CAPITAL LzOLD ITALIC CAPITAL MzOLD ITALIC CAPITAL NzOLD ITALIC CAPITAL O
zOLD ITALIC CAPITAL PzOLD ITALIC CAPITAL QzOLD ITALIC CAPITAL RzOLD ITALIC CAPITAL S
zOLD ITALIC CAPITAL TzOLD ITALIC CAPITAL UzOLD ITALIC CAPITAL VzOLD ITALIC CAPITAL W
zOLD ITALIC CAPITAL XzOLD ITALIC CAPITAL YzOLD ITALIC CAPITAL ZzOLD ITALIC SMALL A
zOLD ITALIC SMALL BzOLD ITALIC SMALL CzOLD ITALIC SMALL DzOLD ITALIC SMALL EzOLD ITALIC SMALL F
zOLD ITALIC SMALL GzOLD ITALIC SMALL HzOLD ITALIC SMALL IzOLD ITALIC SMALL JzOLD ITALIC SMALL K
zOLD ITALIC SMALL LzOLD ITALIC SMALL MzOLD ITALIC SMALL NzOLD ITALIC SMALL OzOLD ITALIC SMALL P
zOLD ITALIC SMALL QzOLD ITALIC SMALL RzOLD ITALIC SMALL SzOLD ITALIC SMALL TzOLD ITALIC SMALL U
zOLD ITALIC SMALL VzOLD ITALIC SMALL WzOLD ITALIC SMALL XzOLD ITALIC SMALL YzOLD ITALIC SMALL Z
nMONOSPACE CAPITAL AzPITAL BzPITAL CzPITAL DzPITAL EzPITAL FzPITAL GzPITAL HzPITAL IzPITAL J
zPITAL KzPITAL LzPITAL MzPITAL NzPITAL OzPITAL PzPITAL QzPITAL RzPITAL SzPITAL TzPITAL UzPITAL V
zPITAL WzPITAL XzPITAL YzPITAL ZxSMALL AzALL BzALL CzALL DzALL EzALL FzALL GzALL HzALL IzALL J
zALL KzALL LzALL MzALL NzALL OzALL PzALL QzALL RzALL SzALL TzALL UzALL VzALL WzALL XzALL YzALL Z
nITALIC SMALL DOTLESS Iz DOTLESS J"⟩,
  ⟨0x1d6a8, "
aMATHEMATICAL BOLD CAPITAL ALPHAz BETAz GAMMAz DELTAz EPSILONz ZETAz ETAz THETAz IOTAz KAPPA
z LAMDAz MUz NUz XIz OMICRONz PIz RHOz THETA SYMBOLz SIGMAz TAUz UPSILONz PHIz CHIz PSIz OMEGA
sNABLAsSMALL ALPHAyBETAyGAMMAyDELTAyEPSILONyZETAyETAyTHETAyIOTAyKAPPAyLAMDAyMUyNUyXIyOMICRONyPI
yRHOyFINAL SIGMAySIGMAyTAUyUPSILONyPHIyCHIyPSIyOMEGAsPARTIAL DIFFERENTIALsEPSILON SYMBOL
sTHETA SYMBOLsKAPPA SYMBOLsPHI SYMBOLsRHO SYMBOLsPI SYMBOLnITALIC CAPITAL ALPHAzAL BETAzAL GAMMA
zAL DELTAzAL EPSILONzAL ZETAzAL ETAzAL THETAzAL IOTAzAL KAPPAzAL LAMDAzAL MUzAL NUzAL XI
zAL OMICRONzAL PIzAL RHOzAL THETA SYMBOLzAL SIGMAzAL TAUzAL UPSILONzAL PHIzAL CHIzAL PSI
zAL OMEGAuNABLAuSMALL ALPHAz BETAz GAMMAz DELTAz EPSILONz ZETAz ETAz THETAz IOTAz KAPPAz LAMDA
z MUz NUz XIz OMICRONz PIz RHOz FINAL SIGMAz SIGMAz TAUz UPSILONz PHIz CHIz PSIz OMEGA
uPARTIAL DIFFERENTIALuEPSILON SYMBOLuTHETA SYMBOLuKAPPA SYMBOLuPHI SYMBOLuRHO SYMBOLuPI SYMBOL
nBOLD ITALIC CAPITAL ALPHAzCAPITAL BETAzCAPITAL GAMMAzCAPITAL DELTAzCAPITAL EPSILONzCAPITAL ZETA
zCAPITAL ETAzCAPITAL THETAzCAPITAL IOTAzCAPITAL KAPPAzCAPITAL LAMDAzCAPITAL MUzCAPITAL NU
zCAPITAL XIzCAPITAL OMICRONzCAPITAL PIzCAPITAL RHOzCAPITAL THETA SYMBOLzCAPITAL SIGMA
zCAPITAL TAUzCAPITAL UPSILONzCAPITAL PHIzCAPITAL CHIzCAPITAL PSIzCAPITAL OMEGAzNABLAzSMALL ALPHA
zSMALL BETAzSMALL GAMMAzSMALL DELTAzSMALL EPSILONzSMALL ZETAzSMALL ETAzSMALL THETAzSMALL IOTA
zSMALL KAPPAzSMALL LAMDAzSMALL MUzSMALL NUzSMALL XIzSMALL OMICRONzSMALL PIzSMALL RHO
zSMALL FINAL SIGMAzSMALL SIGMAzSMALL TAUzSMALL UPSILONzSMALL PHIzSMALL CHIzSMALL PSIzSMALL OMEGA
zPARTIAL DIFFERENTIALzEPSILON SYMBOLzTHETA SYMBOLzKAPPA SYMBOLzPHI SYMBOLzRHO SYMBOLzPI SYMBOL
nSANS-SERIF BOLD CAPITAL ALPHAzOLD CAPITAL BETAzOLD CAPITAL GAMMAzOLD CAPITAL DELTA
zOLD CAPITAL EPSILONzOLD CAPITAL ZETAzOLD CAPITAL ETAzOLD CAPITAL THETAzOLD CAPITAL IOTA
zOLD CAPITAL KAPPAzOLD CAPITAL LAMDAzOLD CAPITAL MUzOLD CAPITAL NUzOLD CAPITAL XI
zOLD CAPITAL OMICRONzOLD CAPITAL PIzOLD CAPITAL RHOzOLD CAPITAL THETA SYMBOLzOLD CAPITAL SIGMA
zOLD CAPITAL TAUzOLD CAPITAL UPSILONzOLD CAPITAL PHIzOLD CAPITAL CHIzOLD CAPITAL PSI
zOLD CAPITAL OMEGAzOLD NABLAzOLD SMALL ALPHAzOLD SMALL BETAzOLD SMALL GAMMAzOLD SMALL DELTA
zOLD SMALL EPSILONzOLD SMALL ZETAzOLD SMALL ETAzOLD SMALL THETAzOLD SMALL IOTAzOLD SMALL KAPPA
zOLD SMALL LAMDAzOLD SMALL MUzOLD SMALL NUzOLD SMALL XIzOLD SMALL OMICRONzOLD SMALL PI
zOLD SMALL RHOzOLD SMALL FINAL SIGMAzOLD SMALL SIGMAzOLD SMALL TAUzOLD SMALL UPSILON
zOLD SMALL PHIzOLD SMALL CHIzOLD SMALL PSIzOLD SMALL OMEGAzOLD PARTIAL DIFFERENTIAL
zOLD EPSILON SYMBOLzOLD THETA SYMBOLzOLD KAPPA SYMBOLzOLD PHI SYMBOLzOLD RHO SYMBOL
zOLD PI SYMBOLzOLD ITALIC CAPITAL ALPHAzOLD ITALIC CAPITAL BETAzOLD ITALIC CAPITAL GAMMA
zOLD ITALIC CAPITAL DELTAzOLD ITALIC CAPITAL EPSILONzOLD ITALIC CAPITAL ZETA
zOLD ITALIC CAPITAL ETAzOLD ITALIC CAPITAL THETAzOLD ITALIC CAPITAL IOTA
zOLD ITALIC CAPITAL KAPPAzOLD ITALIC CAPITAL LAMDAzOLD ITALIC CAPITAL MUzOLD ITALIC CAPITAL NU
zOLD ITALIC CAPITAL XIzOLD ITALIC CAPITAL OMICRONzOLD ITALIC CAPITAL PIzOLD ITALIC CAPITAL RHO
zOLD ITALIC CAPITAL THETA SYMBOLzOLD ITALIC CAPITAL SIGMAzOLD ITALIC CAPITAL TAU
zOLD ITALIC CAPITAL UPSILONzOLD ITALIC CAPITAL PHIzOLD ITALIC CAPITAL CHIzOLD ITALIC CAPITAL PSI
zOLD ITALIC CAPITAL OMEGAzOLD ITALIC NABLAzOLD ITALIC SMALL ALPHAzOLD ITALIC SMALL BETA
zOLD ITALIC SMALL GAMMAzOLD ITALIC SMALL DELTAzOLD ITALIC SMALL EPSILONzOLD ITALIC SMALL ZETA
zOLD ITALIC SMALL ETAzOLD ITALIC SMALL THETAzOLD ITALIC SMALL IOTAzOLD ITALIC SMALL KAPPA
zOLD ITALIC SMALL LAMDAzOLD ITALIC SMALL MUzOLD ITALIC SMALL NUzOLD ITALIC SMALL XI
zOLD ITALIC SMALL OMICRONzOLD ITALIC SMALL PIzOLD ITALIC SMALL RHOzOLD ITALIC SMALL FINAL SIGMA
zOLD ITALIC SMALL SIGMAzOLD ITALIC SMALL TAUzOLD ITALIC SMALL UPSILONzOLD ITALIC SMALL PHI
zOLD ITALIC SMALL CHIzOLD ITALIC SMALL PSIzOLD ITALIC SMALL OMEGA
zOLD ITALIC PARTIAL DIFFERENTIALzOLD ITALIC EPSILON SYMBOLzOLD ITALIC THETA SYMBOL
zOLD ITALIC KAPPA SYMBOLzOLD ITALIC PHI SYMBOLzOLD ITALIC RHO SYMBOLzOLD ITALIC PI SYMBOL
nBOLD CAPITAL DIGAMMAsSMALL DIGAMMA"⟩,
  ⟨0x1d7ce, "
aMATHEMATICAL BOLD DIGIT ZEROyONEyTWOzHREEyFOURzIVEySIXzEVENyEIGHTyNINEnDOUBLE-STRUCK DIGIT ZERO
zK DIGIT ONEzK DIGIT TWOzK DIGIT THREEzK DIGIT FOURzK DIGIT FIVEzK DIGIT SIXzK DIGIT SEVEN
zK DIGIT EIGHTzK DIGIT NINEnSANS-SERIF DIGIT ZEROzIGIT ONEzIGIT TWOzIGIT THREEzIGIT FOUR
zIGIT FIVEzIGIT SIXzIGIT SEVENzIGIT EIGHTzIGIT NINEyBOLD DIGIT ZEROzOLD DIGIT ONEzOLD DIGIT TWO
zOLD DIGIT THREEzOLD DIGIT FOURzOLD DIGIT FIVEzOLD DIGIT SIXzOLD DIGIT SEVENzOLD DIGIT EIGHT
zOLD DIGIT NINEnMONOSPACE DIGIT ZEROzGIT ONEzGIT TWOzGIT THREEzGIT FOURzGIT FIVEzGIT SIX
zGIT SEVENzGIT EIGHTzGIT NINEaSIGNWRITING HAND-FIST INDEXrCIRCLE INDEXsUP INDEXrOVAL INDEX
rHINGE INDEXrANGLE INDEXrFIST INDEX BENTrCIRCLE INDEX BENTrFIST THUMB UNDER INDEX BENT
wINDEX RAISED KNUCKLEzEX CUPPEDzEX HINGEDzEX HINGED LOWrCIRCLE INDEX HINGErFIST INDEX MIDDLE
rCIRCLE INDEX MIDDLErFIST INDEX MIDDLE BENTzEX MIDDLE RAISED KNUCKLESzEX MIDDLE HINGED
zEX UP MIDDLE HINGEDzEX HINGED MIDDLE UPzEX MIDDLE CONJOINEDzEX MIDDLE CONJOINED INDEX BENT
zEX MIDDLE CONJOINED MIDDLE BENTzEX MIDDLE CONJOINED CUPPEDzEX MIDDLE CONJOINED HINGED
zEX MIDDLE CROSSEDrCIRCLE INDEX MIDDLE CROSSEDrFIST MIDDLE BENT OVER INDEX
wINDEX BENT OVER MIDDLEzEX MIDDLE THUMBrCIRCLE INDEX MIDDLE THUMB
rFIST INDEX MIDDLE STRAIGHT THUMB BENTzEX MIDDLE BENT THUMB STRAIGHTzEX MIDDLE THUMB BENT
zEX MIDDLE HINGED SPREAD THUMB SIDEzEX UP MIDDLE HINGED THUMB SIDE
zEX UP MIDDLE HINGED THUMB CONJOINEDzEX HINGED MIDDLE UP THUMB SIDE
zEX MIDDLE UP SPREAD THUMB FORWARDzEX MIDDLE THUMB CUPPEDzEX MIDDLE THUMB CIRCLED
zEX MIDDLE THUMB HOOKEDzEX MIDDLE THUMB HINGEDwTHUMB BETWEEN INDEX MIDDLE STRAIGHT
wINDEX MIDDLE CONJOINED THUMB SIDEzEX MIDDLE CONJOINED THUMB SIDE CONJOINED
zEX MIDDLE CONJOINED THUMB SIDE BENTwMIDDLE THUMB HOOKED INDEX UPwINDEX THUMB HOOKED MIDDLE UP
zEX MIDDLE CONJOINED HINGED THUMB SIDEzEX MIDDLE CROSSED THUMB SIDE
zEX MIDDLE CONJOINED THUMB FORWARDzEX MIDDLE CONJOINED CUPPED THUMB FORWARD
wMIDDLE THUMB CUPPED INDEX UPwINDEX THUMB CUPPED MIDDLE UPwMIDDLE THUMB CIRCLED INDEX UP
zDLE THUMB CIRCLED INDEX HINGEDwINDEX THUMB ANGLED OUT MIDDLE UPzEX THUMB ANGLED IN MIDDLE UP
zEX THUMB CIRCLED MIDDLE UPzEX MIDDLE THUMB CONJOINED HINGEDzEX MIDDLE THUMB ANGLED OUT
zEX MIDDLE THUMB ANGLEDwMIDDLE THUMB ANGLED OUT INDEX UPzDLE THUMB ANGLED OUT INDEX CROSSED
zDLE THUMB ANGLED INDEX UPwINDEX THUMB HOOKED MIDDLE HINGEDsLAT FOUR FINGERSzR FINGERS BENT
zR FINGERS HINGEDzR FINGERS CONJOINEDzR FINGERS CONJOINED SPLITrCLAW FOUR FINGERS CONJOINED
rFIST FOUR FINGERS CONJOINED BENTrHINGE FOUR FINGERS CONJOINEDrFLAT FIVE FINGERS SPREAD
wHEEL FIVE FINGERS SPREADwFIVE FINGERS SPREAD FOUR BENTwHEEL FIVE FINGERS SPREAD FOUR BENT
wFIVE FINGERS SPREAD BENTwHEEL FIVE FINGERS SPREAD BENTwFIVE FINGERS SPREAD THUMB FORWARD
rCUP FIVE FINGERS SPREADz FINGERS SPREAD OPENrHINGE FIVE FINGERS SPREAD OPEN
rOVAL FIVE FINGERS SPREADrFLAT FIVE FINGERS SPREAD HINGEDzE FINGERS SPREAD HINGED THUMB SIDE
zE FINGERS SPREAD HINGED NO THUMBvv BETWEEN PALM FACINGSwHEELwTHUMB SIDEwHEEL THUMB SIDE
wTHUMB BENTzMB FORWARDwSPLIT INDEX THUMB SIDEzIT CENTREzIT CENTRE THUMB SIDE
zIT CENTRE THUMB SIDE BENTzIT LITTLErCLAWv THUMB SIDEwNO THUMBwTHUMB FORWARDrHOOK CURLICUEv
rCUP OPENuu OPEN THUMB SIDEvTHUMB SIDEvOPEN NO THUMBvNO THUMBvOPEN THUMB FORWARDvTHUMB FORWARD
tRLICUE OPENzsIRCLErOVALv THUMB SIDEwNO THUMBwTHUMB FORWARDrHINGE OPENzEN THUMB FORWARDww SMALL
xOPEN THUMB SIDExTHUMB SIDExOPEN NO THUMBxNO THUMBxTHUMB SIDE TOUCHING INDEX
zUMB BETWEEN MIDDLE RINGrANGLErFIST INDEX MIDDLE RINGrCIRCLE INDEX MIDDLE RING
rHINGE INDEX MIDDLE RINGrANGLE INDEX MIDDLE RINGrHINGE LITTLErFIST INDEX MIDDLE RING BENT
zEX MIDDLE RING CONJOINEDrHINGE INDEX MIDDLE RING CONJOINEDrFIST LITTLE DOWN
zTLE DOWN RIPPLE STRAIGHTzTLE DOWN RIPPLE CURVEDzTLE DOWN OTHERS CIRCLEDzTLE UP
wTHUMB UNDER LITTLE UPrCIRCLE LITTLE UPrOVAL LITTLE UPrANGLE LITTLE UP
rFIST LITTLE RAISED KNUCKLEzTLE BENTzTLE TOUCHES THUMBzTLE THUMBrHINGE LITTLE THUMB
rFIST LITTLE INDEX THUMBrHINGE LITTLE INDEX THUMBrANGLE LITTLE INDEX THUMB INDEX THUMB OUT
zTTLE INDEX THUMB INDEX THUMBrFIST LITTLE INDEXrCIRCLE LITTLE INDEXrHINGE LITTLE INDEX
rANGLE LITTLE INDEXrFIST INDEX MIDDLE LITTLErCIRCLE INDEX MIDDLE LITTLE
rHINGE INDEX MIDDLE LITTLExRINGrANGLE INDEX MIDDLE LITTLErFIST INDEX MIDDLE CROSS LITTLE
rCIRCLE INDEX MIDDLE CROSS LITTLErFIST RING DOWNrHINGE RING DOWN INDEX THUMB HOOK MIDDLE
rANGLE RING DOWN MIDDLE THUMB INDEX CROSSrFIST RING UPzG RAISED KNUCKLEzG LITTLE
rCIRCLE RING LITTLErOVAL RING LITTLErANGLE RING LITTLErFIST RING MIDDLEzG MIDDLE CONJOINED
zG MIDDLE RAISED KNUCKLESzG INDEXzG THUMBrHOOK RING THUMBrFIST INDEX RING LITTLE
rCIRCLE INDEX RING LITTLEsURLICUE INDEX RING LITTLE ONrHOOK INDEX RING LITTLE OUT
zEX RING LITTLE INzEX RING LITTLE UNDERrCUP INDEX RING LITTLErHINGE INDEX RING LITTLE
rANGLE INDEX RING LITTLE OUTzDEX RING LITTLErFIST MIDDLE DOWNrHINGE MIDDLErFIST MIDDLE UP
rCIRCLE MIDDLE UPrFIST MIDDLE RAISED KNUCKLEzDLE UP THUMB SIDErHOOK MIDDLE THUMB
rFIST MIDDLE THUMB LITTLEzDLE LITTLEzDLE RING LITTLErCIRCLE MIDDLE RING LITTLE
sURLICUE MIDDLE RING LITTLE ONtP MIDDLE RING LITTLErHINGE MIDDLE RING LITTLE
rANGLE MIDDLE RING LITTLE OUTzDDLE RING LITTLE INzDDLE RING LITTLE
rCIRCLE MIDDLE RING LITTLE BENTsLAW MIDDLE RING LITTLE CONJOINEDzDLE RING LITTLE CONJOINED SIDE
rHOOK MIDDLE RING LITTLE CONJOINED OUTzDLE RING LITTLE CONJOINED INzDLE RING LITTLE CONJOINED
sINGE INDEX HINGEDrFIST INDEX THUMB SIDErHINGE INDEX THUMB SIDE
rFIST INDEX THUMB SIDE THUMB DIAGONALzEX THUMB SIDE THUMB CONJOINEDzEX THUMB SIDE THUMB BENT
zEX THUMB SIDE INDEX BENTzEX THUMB SIDE BOTH BENTzEX THUMB SIDE INDEX HINGE
zEX THUMB FORWARD INDEX STRAIGHTzEX THUMB FORWARD INDEX BENTzEX THUMB HOOKzEX THUMB CURLICUE
zEX THUMB CURVE THUMB INSIDErCLAW INDEX THUMB CURVE THUMB INSIDE
rFIST INDEX THUMB CURVE THUMB UNDERzEX THUMB CIRCLErCUP INDEX THUMBzX THUMB OPEN
rHINGE INDEX THUMB OPENzDEX THUMB LARGEzDEX THUMBzDEX THUMB SMALLrANGLE INDEX THUMB OUT
zDEX THUMB INzDEX THUMBrFIST THUMBzMB HEELzMB SIDE DIAGONALzMB SIDE CONJOINEDzMB SIDE BENT
zMB FORWARDzMB BETWEEN INDEX MIDDLEzMB BETWEEN MIDDLE RINGzMB BETWEEN RING LITTLE
zMB UNDER TWO FINGERSzMB OVER TWO FINGERSzMB UNDER THREE FINGERSzMB UNDER FOUR FINGERS
zMB OVER FOUR RAISED KNUCKLESvv HEELmTOUCH SINGLEsMULTIPLEsBETWEENmGRASP SINGLEsMULTIPLEsBETWEEN
mSTRIKE SINGLEtMULTIPLEtBETWEENmBRUSH SINGLEsMULTIPLEsBETWEENmRUB SINGLEqMULTIPLEqBETWEEN
mSURFACE SYMBOLSuBETWEENnQUEEZE LARGE SINGLEuSMALL SINGLEuLARGE MULTIPLEuSMALL MULTIPLE
vEQUENTIALmFLICK LARGE SINGLEsSMALL SINGLEsLARGE MULTIPLEsSMALL MULTIPLEtEQUENTIAL
mSQUEEZE FLICK ALTERNATINGmMOVEMENT-HINGE UP DOWN LARGEzE UP DOWN SMALLzE UP SEQUENTIAL
zE DOWN SEQUENTIALzE UP DOWN ALTERNATING LARGEzE UP DOWN ALTERNATING SMALL
zE SIDE TO SIDE SCISSORSvWALLPLANE FINGER CONTACTvFLOORPLANE FINGER CONTACT
vWALLPLANE SINGLE STRAIGHT SMALLzPLANE SINGLE STRAIGHT MEDIUMzPLANE SINGLE STRAIGHT LARGE
zPLANE SINGLE STRAIGHT LARGESTzPLANE SINGLE WRIST FLEXzPLANE DOUBLE STRAIGHT
zPLANE DOUBLE WRIST FLEXzPLANE DOUBLE ALTERNATINGzPLANE DOUBLE ALTERNATING WRIST FLEX
zPLANE CROSSzPLANE TRIPLE STRAIGHT MOVEMENTzPLANE TRIPLE WRIST FLEXzPLANE TRIPLE ALTERNATING
zPLANE TRIPLE ALTERNATING WRIST FLEXzPLANE BEND SMALLzPLANE BEND MEDIUMzPLANE BEND LARGE
zPLANE CORNER SMALLzPLANE CORNER MEDIUMzPLANE CORNER LARGEzPLANE CORNER ROTATION
zPLANE CHECK SMALLzPLANE CHECK MEDIUMzPLANE CHECK LARGEzPLANE BOX SMALLzPLANE BOX MEDIUM
zPLANE BOX LARGEzPLANE ZIGZAG SMALLzPLANE ZIGZAG MEDIUMzPLANE ZIGZAG LARGEzPLANE PEAKS SMALL
zPLANE PEAKS MEDIUMzPLANE PEAKS LARGEmTRAVEL-WALLPLANE ROTATION-WALLPLANE SINGLE
zANE ROTATION-WALLPLANE DOUBLEzANE ROTATION-WALLPLANE ALTERNATINGzANE ROTATION-FLOORPLANE SINGLE
zANE ROTATION-FLOORPLANE DOUBLEzANE ROTATION-FLOORPLANE ALTERNATINGzANE SHAKING
zANE ARM SPIRAL SINGLEzANE ARM SPIRAL DOUBLEzANE ARM SPIRAL TRIPLEmMOVEMENT-DIAGONAL AWAY SMALL
zONAL AWAY MEDIUMzONAL AWAY LARGEzONAL AWAY LARGESTzONAL TOWARDS SMALLzONAL TOWARDS MEDIUM
zONAL TOWARDS LARGEzONAL TOWARDS LARGESTzONAL BETWEEN AWAY SMALLzONAL BETWEEN AWAY MEDIUM
zONAL BETWEEN AWAY LARGEzONAL BETWEEN AWAY LARGESTzONAL BETWEEN TOWARDS SMALL
zONAL BETWEEN TOWARDS MEDIUMzONAL BETWEEN TOWARDS LARGEzONAL BETWEEN TOWARDS LARGEST
vFLOORPLANE SINGLE STRAIGHT SMALLzRPLANE SINGLE STRAIGHT MEDIUMzRPLANE SINGLE STRAIGHT LARGE
zRPLANE SINGLE STRAIGHT LARGESTzRPLANE SINGLE WRIST FLEXzRPLANE DOUBLE STRAIGHT
zRPLANE DOUBLE WRIST FLEXzRPLANE DOUBLE ALTERNATINGzRPLANE DOUBLE ALTERNATING WRIST FLEX
zRPLANE CROSSzRPLANE TRIPLE STRAIGHT MOVEMENTzRPLANE TRIPLE WRIST FLEX
zRPLANE TRIPLE ALTERNATING MOVEMENTzRPLANE TRIPLE ALTERNATING WRIST FLEXzRPLANE BEND
zRPLANE CORNER SMALLzRPLANE CORNER MEDIUMzRPLANE CORNER LARGEzRPLANE CHECKzRPLANE BOX SMALL
zRPLANE BOX MEDIUMzRPLANE BOX LARGEzRPLANE ZIGZAG SMALLzRPLANE ZIGZAG MEDIUMzRPLANE ZIGZAG LARGE
zRPLANE PEAKS SMALLzRPLANE PEAKS MEDIUMzRPLANE PEAKS LARGE
mTRAVEL-FLOORPLANE ROTATION-FLOORPLANE SINGLEzLANE ROTATION-FLOORPLANE DOUBLE
zLANE ROTATION-FLOORPLANE ALTERNATINGzLANE ROTATION-WALLPLANE SINGLE
zLANE ROTATION-WALLPLANE DOUBLEzLANE ROTATION-WALLPLANE ALTERNATINGzLANE SHAKING
mMOVEMENT-WALLPLANE CURVE QUARTER SMALLzPLANE CURVE QUARTER MEDIUMzPLANE CURVE QUARTER LARGE
zPLANE CURVE QUARTER LARGESTzPLANE CURVE HALF-CIRCLE SMALLzPLANE CURVE HALF-CIRCLE MEDIUM
zPLANE CURVE HALF-CIRCLE LARGEzPLANE CURVE HALF-CIRCLE LARGEST
zPLANE CURVE THREE-QUARTER CIRCLE SMALLzPLANE CURVE THREE-QUARTER CIRCLE MEDIUMzPLANE HUMP SMALL
zPLANE HUMP MEDIUMzPLANE HUMP LARGEzPLANE LOOP SMALLzPLANE LOOP MEDIUMzPLANE LOOP LARGE
zPLANE LOOP SMALL DOUBLEzPLANE WAVE CURVE DOUBLE SMALLzPLANE WAVE CURVE DOUBLE MEDIUM
zPLANE WAVE CURVE DOUBLE LARGEzPLANE WAVE CURVE TRIPLE SMALLzPLANE WAVE CURVE TRIPLE MEDIUM
zPLANE WAVE CURVE TRIPLE LARGEzPLANE CURVE THEN STRAIGHTzPLANE CURVED CROSS SMALL
zPLANE CURVED CROSS MEDIUMmROTATION-WALLPLANE SINGLEzPLANE DOUBLEzPLANE ALTERNATE
mMOVEMENT-WALLPLANE SHAKINGzPLANE CURVE HITTING FRONT WALLzPLANE HUMP HITTING FRONT WALL
zPLANE LOOP HITTING FRONT WALLzPLANE WAVE HITTING FRONT WALL
mROTATION-WALLPLANE SINGLE HITTING FRONT WALLzPLANE DOUBLE HITTING FRONT WALL
zPLANE ALTERNATING HITTING FRONT WALLmMOVEMENT-WALLPLANE CURVE HITTING CHEST
zPLANE HUMP HITTING CHESTzPLANE LOOP HITTING CHESTzPLANE WAVE HITTING CHEST
mROTATION-WALLPLANE SINGLE HITTING CHESTzPLANE DOUBLE HITTING CHEST
zPLANE ALTERNATING HITTING CHESTmMOVEMENT-WALLPLANE WAVE DIAGONAL PATH SMALL
zPLANE WAVE DIAGONAL PATH MEDIUMzPLANE WAVE DIAGONAL PATH LARGE
vFLOORPLANE CURVE HITTING CEILING SMALLzRPLANE CURVE HITTING CEILING LARGE
zRPLANE HUMP HITTING CEILING SMALL DOUBLEzRPLANE HUMP HITTING CEILING LARGE DOUBLE
zRPLANE HUMP HITTING CEILING SMALL TRIPLEzRPLANE HUMP HITTING CEILING LARGE TRIPLE
zRPLANE LOOP HITTING CEILING SMALL SINGLEzRPLANE LOOP HITTING CEILING LARGE SINGLE
zRPLANE LOOP HITTING CEILING SMALL DOUBLEzRPLANE LOOP HITTING CEILING LARGE DOUBLE
zRPLANE WAVE HITTING CEILING SMALLzRPLANE WAVE HITTING CEILING LARGE
mROTATION-FLOORPLANE SINGLE HITTING CEILINGzRPLANE DOUBLE HITTING CEILING
zRPLANE ALTERNATING HITTING CEILINGmMOVEMENT-FLOORPLANE CURVE HITTING FLOOR SMALL
zRPLANE CURVE HITTING FLOOR LARGEzRPLANE HUMP HITTING FLOOR SMALL DOUBLE
zRPLANE HUMP HITTING FLOOR LARGE DOUBLEzRPLANE HUMP HITTING FLOOR TRIPLE SMALL TRIPLE
zRPLANE HUMP HITTING FLOOR TRIPLE LARGE TRIPLEzRPLANE LOOP HITTING FLOOR SMALL SINGLE
zRPLANE LOOP HITTING FLOOR LARGE SINGLEzRPLANE LOOP HITTING FLOOR SMALL DOUBLE
zRPLANE LOOP HITTING FLOOR LARGE DOUBLEzRPLANE WAVE HITTING FLOOR SMALL
zRPLANE WAVE HITTING FLOOR LARGEmROTATION-FLOORPLANE SINGLE HITTING FLOOR
zRPLANE DOUBLE HITTING FLOORzRPLANE ALTERNATING HITTING FLOORmMOVEMENT-FLOORPLANE CURVE SMALL
zRPLANE CURVE MEDIUMzRPLANE CURVE LARGEzRPLANE CURVE LARGESTzRPLANE CURVE COMBINED
zRPLANE HUMP SMALLzRPLANE LOOP SMALLzRPLANE WAVE SNAKEzRPLANE WAVE SMALLzRPLANE WAVE LARGE
mROTATION-FLOORPLANE SINGLEzRPLANE DOUBLEzRPLANE ALTERNATING
mMOVEMENT-FLOORPLANE SHAKING PARALLELvWALLPLANE ARM CIRCLE SMALL SINGLE
zPLANE ARM CIRCLE MEDIUM SINGLEzPLANE ARM CIRCLE SMALL DOUBLEzPLANE ARM CIRCLE MEDIUM DOUBLE
vFLOORPLANE ARM CIRCLE HITTING WALL SMALL SINGLEzRPLANE ARM CIRCLE HITTING WALL MEDIUM SINGLE
zRPLANE ARM CIRCLE HITTING WALL LARGE SINGLEzRPLANE ARM CIRCLE HITTING WALL SMALL DOUBLE
zRPLANE ARM CIRCLE HITTING WALL MEDIUM DOUBLEzRPLANE ARM CIRCLE HITTING WALL LARGE DOUBLE
vWALLPLANE WRIST CIRCLE FRONT SINGLEzPLANE WRIST CIRCLE FRONT DOUBLE
vFLOORPLANE WRIST CIRCLE HITTING WALL SINGLEzRPLANE WRIST CIRCLE HITTING WALL DOUBLE
vWALLPLANE FINGER CIRCLES SINGLEzPLANE FINGER CIRCLES DOUBLE
vFLOORPLANE FINGER CIRCLES HITTING WALL SINGLEzRPLANE FINGER CIRCLES HITTING WALL DOUBLE
mDYNAMIC ARROWHEAD SMALLzHEAD LARGEuFASTuSLOWuTENSEuRELAXEDuSIMULTANEOUSzTANEOUS ALTERNATING
uEVERY OTHER TIMEuGRADUALmHEADq RIMrMOVEMENT-WALLPLANE STRAIGHTz-WALLPLANE TILT
z-FLOORPLANE STRAIGHTz-WALLPLANE CURVEz-FLOORPLANE CURVEz CIRCLE
mFACE DIRECTION POSITION NOSE FORWARD TILTINGzN POSITION NOSE UP OR DOWN
zN POSITION NOSE UP OR DOWN TILTINGmEYEBROWS STRAIGHT UPzIGHT NEUTRALzIGHT DOWN
mDREAMY EYEBROWS NEUTRAL DOWNzWS DOWN NEUTRALzWS UP NEUTRALzWS NEUTRAL UPmFOREHEAD NEUTRAL
vCONTACTvWRINKLEDmEYES OPENrSQUEEZEDrCLOSEDp BLINK SINGLEwMULTIPLEpS HALF OPENrWIDE OPEN
rHALF CLOSEDrWIDENING MOVEMENTp WINKpLASHES UPwDOWNwFLUTTERINGpGAZE-WALLPLANE STRAIGHT
zLANE STRAIGHT DOUBLEzLANE STRAIGHT ALTERNATINGuFLOORPLANE STRAIGHTzPLANE STRAIGHT DOUBLE
zPLANE STRAIGHT ALTERNATINGuWALLPLANE CURVEDuFLOORPLANE CURVEDuWALLPLANE CIRCLINGmCHEEKS PUFFED
tNEUTRALtSUCKEDmTENSE CHEEKS HIGHzMIDDLEzLOWmEARSmNOSE NEUTRALrCONTACTrWRINKLESsIGGLES
mAIR BLOWING OUTqSUCKING INqBLOW SMALL ROTATIONSqSUCK SMALL ROTATIONSmBREATH INHALEtEXHALE
mMOUTH CLOSED NEUTRALzFORWARDzCONTACTsSMILEx WRINKLEDyOPENsFROWNx WRINKLEDyOPENsOPEN CIRCLE
xFORWARDxWRINKLEDxOVALzAL WRINKLEDzAL YAWNxRECTANGLEzCTANGLE WRINKLEDzCTANGLE YAWNsKISSw FORWARD
xWRINKLEDsTENSEx FORWARDySUCKEDmLIPS PRESSED TOGETHERp LOWER OVER UPPERqUPPER OVER LOWER
mMOUTH CORNERSsWRINKLES SINGLEzS DOUBLEmTONGUE STICKING OUT FARtLICKING LIPStTIP BETWEEN LIPS
xTOUCHING INSIDE MOUTHtINSIDE MOUTH RELAXEDtMOVES AGAINST CHEEKtCENTRE STICKING OUT
z INSIDE MOUTHnEETHr MOVEMENTsON TONGUEzUE MOVEMENTvLIPSz MOVEMENTsBITE LIPS
mMOVEMENT-WALLPLANE JAWvFLOORPLANE JAWmNECKmHAIRmEXCITEMENTmSHOULDER HIP SPINEzPOSITIONS
mWALLPLANE SHOULDER HIP MOVEmFLOORPLANE SHOULDER HIP MOVEmSHOULDER TILTING FROM WAIST
mTORSO-WALLPLANE STRAIGHT STRETCHzNE CURVED BENDsFLOORPLANE TWISTING
mUPPER BODY TILTING FROM HIP JOINTSmLIMB COMBINATIONrLENGTH-1y2y3y4y5y6y7mFINGER
mLOCATION-WALLPLANE SPACEvFLOORPLANE SPACEu HEIGHTvWIDTHvDEPTHvHEAD NECKvTORSOvLIMBS DIGITS
mCOMMAmFULL STOPmSEMICOLONmCOLONmPARENTHESIS"⟩,
  ⟨0x1da9b, "aSIGNWRITING FILL MODIFIER-2z-3z-4z-5z-6"⟩,
  ⟨0x1daa1, "
aSIGNWRITING ROTATION MODIFIER-2zFIER-3zFIER-4zFIER-5zFIER-6zFIER-7zFIER-8zFIER-9zFIER-10
zFIER-11zFIER-12zFIER-13zFIER-14zFIER-15zFIER-16"⟩,
  ⟨0x1df00, "
aLATIN SMALL LETTER FENG DIGRAPH WITH TRILLtREVERSED SCRIPT GgLETTER SMALL CAPITAL TURNED G
gSMALL LETTER REVERSED KgLETTER SMALL CAPITAL L WITH BELTgSMALL LETTER LEZH WITH RETROFLEX HOOK
tTURNED Y WITH BELTtREVERSED ENGtTURNED R WITH LONG LEG AND RETROFLEX HOOK
u WITH HOOK AND RETROFLEX HOOKgLETTER RETROFLEX CLICK WITH RETROFLEX HOOK
gSMALL LETTER ESH WITH DOUBLE BARzTH DOUBLE BAR AND CURLtTURNED T WITH CURL
gLETTER INVERTED GLOTTAL STOP WITH CURLnSTRETCHED C WITH CURLoMALL CAPITAL TURNED K
gSMALL LETTER L WITH FISHHOOKtDEZH DIGRAPH WITH PALATAL HOOKtL WITH BELT AND PALATAL HOOK
tENG WITH PALATAL HOOKtTURNED R WITH PALATAL HOOKtR WITH FISHHOOK AND PALATAL HOOK
tTESH DIGRAPH WITH PALATAL HOOKtEZH WITH PALATAL HOOKtDEZH DIGRAPH WITH RETROFLEX HOOK
tI WITH STROKE AND RETROFLEX HOOKtO WITH RETROFLEX HOOKtTESH DIGRAPH WITH RETROFLEX HOOK
tC WITH RETROFLEX HOOKtS WITH CURL"⟩,
  ⟨0x1e000, "
aCOMBINING GLAGOLITIC LETTER AZUzER BUKYzER VEDEzER GLAGOLIzER DOBROzER YESTUzER ZHIVETE"⟩,
  ⟨0x1e008, "
aCOMBINING GLAGOLITIC LETTER ZEMLJAzER IZHEzER INITIAL IZHEzER IzER DJERVIzER KAKOzER LJUDIJE
zER MYSLITEzER NASHIzER ONUzER POKOJIzER RITSIzER SLOVOzER TVRIDOzER UKUzER FRITUzER HERU"⟩,
  ⟨0x1e01b, "
aCOMBINING GLAGOLITIC LETTER SHTAzER TSIzER CHRIVIzER SHAzER YERUzER YERIzER YATI"⟩,
  ⟨0x1e023, "aCOMBINING GLAGOLITIC LETTER YUzER SMALL YUS"⟩,
  ⟨0x1e026, "
aCOMBINING GLAGOLITIC LETTER YOzER IOTATED SMALL YUSzER BIG YUSzER IOTATED BIG YUSzER FITA"⟩,
  ⟨0x1e100, "
aNYIAKENG PUACHUE HMONG LETTER MAzTTER TSAzTTER NTAzTTER TAzTTER HAzTTER NAzTTER XAzTTER NKA
zTTER CAzTTER LAzTTER SAzTTER ZAzTTER NCAzTTER NTSAzTTER KAzTTER DAzTTER NYAzTTER NRAzTTER VA
zTTER NTXAzTTER TXAzTTER FAzTTER RAzTTER QAzTTER YAzTTER NQAzTTER PAzTTER XYAzTTER NPAzTTER DLA
zTTER NPLAzTTER HAHzTTER MLAzTTER PLAzTTER GAzTTER RRAzTTER AzTTER AAzTTER IzTTER UzTTER O
zTTER OOzTTER EzTTER EEzTTER W"⟩,
  ⟨0x1e130, "
aNYIAKENG PUACHUE HMONG TONE-BzNE-MzNE-JzNE-VzNE-SzNE-GzNE-DxSIGN FOR PERSONzGN FOR THING
zGN FOR LOCATIONzGN FOR ANIMALzGN FOR INVERTEBRATEzGN XW XWyYLLABLE LENGTHENER"⟩,
  ⟨0x1e140, "
aNYIAKENG PUACHUE HMONG DIGIT ZEROzGIT ONEzGIT TWOzGIT THREEzGIT FOURzGIT FIVEzGIT SIXzGIT SEVEN
zGIT EIGHTzGIT NINE"⟩,
  ⟨0x1e14e, "aNYIAKENG PUACHUE HMONG LOGOGRAM NYAJxCIRCLED CA"⟩,
  ⟨0x1e290, "
aTOTO LETTER PAmBAmTAmDAmKAmGAmMAmNAnGAmSAmCHAmYAmWAmJAmHAmRAmLAmImBREATHY ImIUmBREATHY IUmUmE
mBREATHY EmEOmBREATHY EOmOmAEmBREATHY AEmAfSIGN RISING TONE"⟩,
  ⟨0x1e2c0, "
aWANCHO LETTER AApoBAoCAoDAoGAoYAoPHAoLAoNAoPAoTApHAoFAoSApHAoJAoZAoWAoVAoKAoOoAUoRAoMAoKHAoHAoE
oIoNGAoUoLLHAoTSApRAoONGoAANGpNGoINGoONoENoAANoNYAoUENoYIHhTONE TUPpNImKOIpNIhDIGIT ZEROnONEnTWO
oHREEnFOURoIVEnSIXoEVENnEIGHTnNINE"⟩,
  ⟨0x1e2ff, "aWANCHO NGUN SIGN"⟩,
  ⟨0x1e7e0, "aETHIOPIC SYLLABLE HHYAvUvIvAAvEEwvO"⟩,
  ⟨0x1e7e8, "aETHIOPIC SYLLABLE GURAGE HHWAsHHWIvEEw"⟩,
  ⟨0x1e7ed, "aETHIOPIC SYLLABLE GURAGE MWIzMWEE"⟩,
  ⟨0x1e7f0, "
aETHIOPIC SYLLABLE GURAGE QWIzQWEEzQWEzBWIzBWEEzKWIzKWEEzKWEzGWIzGWEEzGWEzFWIzFWEEzPWIzPWEE"⟩,
  ⟨0x1e800, "
aMENDE KIKAKUI SYLLABLE M001 KIz02 KAz03 KUz65 KEEz95 KEz76 KOOz48 KOy179 KUAy004 WIz05 WAz06 WU
y126 WEEz18 WEz14 WOOy045 WOy194 WUIz43 WEIy061 WVIz49 WVAy139 WVEy007 MINz08 MANz09 MUNz59 MEN
z94 MONy154 MUANz89 MUENy010 BIz11 BAz12 BUy150 BEEy097 BEy103 BOOz38 BOy013 Iz14 Az15 Uy163 EE
z00 Ez65 OOz47 Oz37 EIz31 INz35 INz95 ANz78 ENy019 SIz20 SAz21 SUy162 SEEz16 SEz36 SOOy079 SO
y196 SIAy025 LIz26 LAz27 LUz84 LEEz73 LEz54 LOOy153 LOz10 LONG LEy016 DIz17 DAz18 DUz89 DEE
y180 DOOz81 DOy022 TIz23 TAz24 TUz91 TEEz55 TEy104 TOOy069 TOz28 JIz29 JAz30 JUy157 JEEz13 JE
z60 JOOy063 JOy175 LONG JOy031 YIz32 YAz33 YUy109 YEEy080 YEy141 YOOz21 YOy034 FIz35 FAz36 FU
z78 FEEz75 FEy133 FOOy088 FOy197 FUAz01 FANy037 NINz38 NANz39 NUNy117 NENz69 NONz76 HIy041 HA
y186 HUy040 HEEz96 HEz42 HOOy140 HOy083 HEEIy128 HOOUy053 HINy130 HANy087 HUNz52 HENy193 HON
y046 HUANz90 NGGIz43 NGGAz82 NGGUy115 NGGEEz46 NGGEz56 NGGOOz20 NGGOz59 NGGAAz27 NGGUA
y086 LONG NGGEy106 LONG NGGOOz83 LONG NGGOz55 GIz11 GAz68 GUz90 GEEz66 GUEIz67 GUANz84 NGEN
y057 NGONy177 NGUANy068 PIz99 PAz50 PUz81 PEEz51 PEy102 POOy066 POy145 MBIy062 MBAy122 MBU
y047 MBEEy188 MBEEy072 MBEy172 MBOOz74 MBOz87 MBUUz61 LONG MBEz05 LONG MBOOz42 LONG MBOz32 KPI
y092 KPAz74 KPUz44 KPEEy108 KPEz12 KPOOz58 KPOz24 GBIy056 GBAy148 GBUy093 GBEEy107 GBEy071 GBOO
z70 GBOy171 RAz23 NDIz29 NDAz25 NDUz91 NDEEz19 NDEy067 NDOOz64 NDOy152 NJAz92 NJUz49 NJEE
z34 NJOOz82 VIz85 VAz51 VUz73 VEEy085 VEy144 VOOy077 VOy164 NYINy058 NYANy170 NYUNy098 NYEN
z60 NYON"⟩,
  ⟨0x1e8c7, "
aMENDE KIKAKUI DIGIT ONEuTWOvHREEuFOURvIVEuSIXvEVENuEIGHTuNINEoCOMBINING NUMBER TEENSzUMBER TENS
zUMBER HUNDREDSzUMBER THOUSANDSzUMBER TEN THOUSANDSzUMBER HUNDRED THOUSANDSzUMBER MILLIONS"⟩,
  ⟨0x1e900, "
aADLAM CAPITAL LETTER ALIFvDAALIvLAAMvMIIMvBAvSINNYIIYHEvPEvBHEvRAvEvFAvIvOvDHAvYHEvWAWvNUNvKAF
vYAvUvJIIMvCHIvHAvQAAFvGAvNYAvTUvNHAvVAvKHAvGBEvZALvKPOvSHAgSMALL LETTER ALIFtDAALItLAAMtMIIMtBA
tSINNYIIYHEtPEtBHEtRAtEtFAtItOtDHAtYHEtWAWtNUNtKAFtYAtUtJIIMtCHItHAtQAAFtGAtNYAtTUtNHAtVAtKHA
tGBEtZALtKPOtSHAgALIF LENGTHENERgVOWEL LENGTHENERgGEMINATION MARKgHAMZAgCONSONANT MODIFIER
gGEMINATE CONSONANT MODIFIERgNUKTAhASALIZATION MARK"⟩,
  ⟨0x1e950, "aADLAM DIGIT ZEROmONEmTWOnHREEmFOURnIVEmSIXnEVENmEIGHTmNINE"⟩,
  ⟨0x1e95e, "aADLAM INITIAL EXCLAMATION MARKoQUESTION MARK"⟩,
  ⟨0x1ec71, "
aINDIC SIYAQ NUMBER ONEtTWOuHREEtFOURuIVEtSIXuEVENtEIGHTtNINEtTENuWENTYuHIRTYtFORTYuIFTYtSIXTY
uEVENTYtEIGHTYtNINETYtONE HUNDREDtTWO HUNDREDuHREE HUNDREDtFOUR HUNDREDuIVE HUNDREDtSIX HUNDRED
uEVEN HUNDREDtEIGHT HUNDREDtNINE HUNDREDtONE THOUSANDtTWO THOUSANDuHREE THOUSANDtFOUR THOUSAND
uIVE THOUSANDtSIX THOUSANDuEVEN THOUSANDtEIGHT THOUSANDtNINE THOUSANDtTEN THOUSAND
uWENTY THOUSANDuHIRTY THOUSANDtFORTY THOUSANDuIFTY THOUSANDtSIXTY THOUSANDuEVENTY THOUSAND
tEIGHTY THOUSANDtNINETY THOUSANDtLAKHxANmLAKH MARKmNUMBER KARORyANtPREFIXED ONEzED TWOzED THREE
zED FOURzED FIVEzED SIXzED SEVENzED EIGHTzED NINEmPLACEHOLDERmFRACTION ONE QUARTERzHALF
vTHREE QUARTERSmRUPEE MARKmNUMBER ALTERNATE ONEzATE TWOzATE TEN THOUSANDmALTERNATE LAKH MARK"⟩,
  ⟨0x1ed01, "
aOTTOMAN SIYAQ NUMBER ONEvTWOwHREEvFOURwIVEvSIXwEVENvEIGHTvNINEvTENwWENTYwHIRTYvFORTYwIFTYvSIXTY
wEVENTYvEIGHTYvNINETYvONE HUNDREDvTWO HUNDREDwHREE HUNDREDvFOUR HUNDREDwIVE HUNDREDvSIX HUNDRED
wEVEN HUNDREDvEIGHT HUNDREDvNINE HUNDREDvONE THOUSANDvTWO THOUSANDwHREE THOUSANDvFOUR THOUSAND
wIVE THOUSANDvSIX THOUSANDwEVEN THOUSANDvEIGHT THOUSANDvNINE THOUSANDvTEN THOUSAND
wWENTY THOUSANDwHIRTY THOUSANDvFORTY THOUSANDwIFTY THOUSANDvSIXTY THOUSANDwEVENTY THOUSAND
vEIGHTY THOUSANDvNINETY THOUSANDoMARRATANoALTERNATE NUMBER TWOzUMBER THREEzUMBER FOURzUMBER FIVE
zUMBER SIXzUMBER SEVENzUMBER EIGHTzUMBER NINEzUMBER TENzUMBER FOUR HUNDREDzUMBER SIX HUNDRED
zUMBER TWO THOUSANDzUMBER TEN THOUSANDoFRACTION ONE HALFzE SIXTH"⟩,
  ⟨0x1ee00, "aARABIC MATHEMATICAL ALEFuBEHuJEEMuDAL"⟩,
  ⟨0x1ee05, "
aARABIC MATHEMATICAL WAWuZAINuHAHuTAHuYEHuKAFuLAMuMEEMuNOONuSEENuAINuFEHuSADuQAFuREHuSHEENuTEH
vHEHuKHAHuTHALuDADuZAHuGHAINuDOTLESS BEHzSS NOONzSS FEHzSS QAF"⟩,
  ⟨0x1ee21, "aARABIC MATHEMATICAL INITIAL BEHzAL JEEM"⟩,
  ⟨0x1ee24, "aARABIC MATHEMATICAL INITIAL HEH"⟩,
  ⟨0x1ee27, "aARABIC MATHEMATICAL INITIAL HAH"⟩,
  ⟨0x1ee29, "
aARABIC MATHEMATICAL INITIAL YEHzAL KAFzAL LAMzAL MEEMzAL NOONzAL SEENzAL AINzAL FEHzAL SAD
zAL QAF"⟩,
  ⟨0x1ee34, "aARABIC MATHEMATICAL INITIAL SHEENzAL TEHzAL THEHzAL KHAH"⟩,
  ⟨0x1ee39, "aARABIC MATHEMATICAL INITIAL DAD"⟩,
  ⟨0x1ee3b, "aARABIC MATHEMATICAL INITIAL GHAIN"⟩,
  ⟨0x1ee42, "aARABIC MATHEMATICAL TAILED JEEM"⟩,
  ⟨0x1ee47, "aARABIC MATHEMATICAL TAILED HAH"⟩,
  ⟨0x1ee49, "aARABIC MATHEMATICAL TAILED YEH"⟩,
  ⟨0x1ee4b, "aARABIC MATHEMATICAL TAILED LAM"⟩,
  ⟨0x1ee4d, "aARABIC MATHEMATICAL TAILED NOONzD SEENzD AIN"⟩,
  ⟨0x1ee51, "aARABIC MATHEMATICAL TAILED SADzD QAF"⟩,
  ⟨0x1ee54, "aARABIC MATHEMATICAL TAILED SHEEN"⟩,
  ⟨0x1ee57, "aARABIC MATHEMATICAL TAILED KHAH"⟩,
  ⟨0x1ee59, "aARABIC MATHEMATICAL TAILED DAD"⟩,
  ⟨0x1ee5b, "aARABIC MATHEMATICAL TAILED GHAIN"⟩,
  ⟨0x1ee5d, "aARABIC MATHEMATICAL TAILED DOTLESS NOON"⟩,
  ⟨0x1ee5f, "aARABIC MATHEMATICAL TAILED DOTLESS QAF"⟩,
  ⟨0x1ee61, "aARABIC MATHEMATICAL STRETCHED BEHzCHED JEEM"⟩,
  ⟨0x1ee64, "aARABIC MATHEMATICAL STRETCHED HEH"⟩,
  ⟨0x1ee67, "aARABIC MATHEMATICAL STRETCHED HAHzCHED TAHzCHED YEHzCHED KAF"⟩,
  ⟨0x1ee6c, "
aARABIC MATHEMATICAL STRETCHED MEEMzCHED NOONzCHED SEENzCHED AINzCHED FEHzCHED SADzCHED QAF"⟩,
  ⟨0x1ee74, "aARABIC MATHEMATICAL STRETCHED SHEENzCHED TEHzCHED THEHzCHED KHAH"⟩,
  ⟨0x1ee79, "aARABIC MATHEMATICAL STRETCHED DADzCHED ZAHzCHED GHAINzCHED DOTLESS BEH"⟩,
  ⟨0x1ee7e, "aARABIC MATHEMATICAL STRETCHED DOTLESS FEH"⟩,
  ⟨0x1ee80, "
aARABIC MATHEMATICAL LOOPED ALEFzD BEHzD JEEMzD DALzD HEHzD WAWzD ZAINzD HAHzD TAHzD YEH"⟩,
  ⟨0x1ee8b, "
aARABIC MATHEMATICAL LOOPED LAMzD MEEMzD NOONzD SEENzD AINzD FEHzD SADzD QAFzD REHzD SHEENzD TEH
zD THEHzD KHAHzD THALzD DADzD ZAHzD GHAIN"⟩,
  ⟨0x1eea1, "aARABIC MATHEMATICAL DOUBLE-STRUCK BEHzE-STRUCK JEEMzE-STRUCK DAL"⟩,
  ⟨0x1eea5, "
aARABIC MATHEMATICAL DOUBLE-STRUCK WAWzE-STRUCK ZAINzE-STRUCK HAHzE-STRUCK TAHzE-STRUCK YEH"⟩,
  ⟨0x1eeab, "
aARABIC MATHEMATICAL DOUBLE-STRUCK LAMzE-STRUCK MEEMzE-STRUCK NOONzE-STRUCK SEENzE-STRUCK AIN
zE-STRUCK FEHzE-STRUCK SADzE-STRUCK QAFzE-STRUCK REHzE-STRUCK SHEENzE-STRUCK TEHzE-STRUCK THEH
zE-STRUCK KHAHzE-STRUCK THALzE-STRUCK DADzE-STRUCK ZAHzE-STRUCK GHAIN"⟩,
  ⟨0x1eef0, "aARABIC MATHEMATICAL OPERATOR MEEM WITH HAH WITH TATWEELzTOR HAH WITH DAL"⟩]

end ChatRiddles.Text.Names

import ChatRiddles.Text.Names.Run
/-!
The names of further scripts of the basic plane, and forms for compatibility.
-/

namespace ChatRiddles.Text.Names

/-- The names of further scripts of the basic plane, and forms for compatibility. -/
def compatibility : List Run := [
  ⟨0xa000, "
aYI SYLLABLE ITnXnnPnEToXooPmATnXnnPmUOXooPmOTnXnnPmEXnmWUmBIToXooPoETpXppPnAToXooPnUOXppPnOToXo
oPnEXooPnUToXooPoRXpnYToXooPoRXpmPIToXooPoEXppPnAToXooPnUOXppPnOToXooPnUToXooPoRXpnYToXooPoRXp
mBBITpXppPpETqXqqPoATpXppPoUOXqqPoOTpXppPoEXppPoUTpXppPpRXqoYTpXppPmNBITpXppPpEXqqPoATpXppPoOTpX
ppPoUTpXppPpRXqoYTpXppPpRXqmHMITpXppPpEXqqPoATpXppPoUOXqqPoOTpXppPoUTpXppPpRXqoYXppPpRXqmMIToXo
oPoEXppPnAToXooPnUOTpXppPnOToXooPnEXonUToXooPoRXpnYToXooPmFIToXooPnAToXooPnOXooPnUToXooPoRXpnYT
oXooPmVIToXooPoETpXppPnAToXooPnOToXooPnEXoPnUToXooPoRXpnYToXooPoRXpmDIToXooPoEXppPnAToXooPnUOXp
nOToXooPnEXooPnUToXooPoRXpmTIToXooPoEXppPnAToXooPnUOTpXppPnOToXooPnEXooPnUToXooPoRXpmDDITpXppP
pEXqqPoATpXppPoUOXqqPoOTpXppPoEXppPoUTpXppPpRXqmNDITpXppPpEXqoATpXppPoOTpXppPoEXppPoUTpXppPpRXq
mHNITpXppPpETqXqqPoATpXppPoUOXqoOTpXpPoEXppPoUTmNIToXooPoEXppPnAXooPnUOXppPnOToXooPnEXooPnUToXo
oPoRXpmHLITpXppPpEXqqPoATpXppPoUOXqqPoOXppPoEXppPoUTpXppPpRXqoYTpXppPpRXqmLIToXooPoETpXppPnAToXo
oPnUOTpXppPnOToXooPnEXooPnUToXooPoRXpnYToXooPoRXpmGIToXooPoETpXppPnAToXooPnUOTpXppPnOToXooPnEToX
ooPnUToXooPoRXpmKIToXooPoEXppPnAToXooPnUOXppPnOToXooPnEToXooPnUToXooPoRXpmGGITpXppEXqqPoATpXppP
oUOTqXqqPoOTpXppPoETpXppPoUTpXppPpRXqmMGIEXqoATpXppPoUOXqqPoOTpXppPoEXppPoUTpXppPpRXqmHXITpXppP
pETqXqqPoATpXppPoUOTqXqqPoOTpXppPoEXppPmNGIEXqqPoATpXppPoUOTqXqoOTpXppPoEXppPmHIToEXpnAToXooP
nUOTpXppPnOToXooPnEXooPmWAToXooPnUOXppPnOXooPnEXooPmZIToXooPoEXppPnAToXooPnUOXppPnOToXooPnEXooP
nUToXooPoRXpnYToXooPoRXpmCIToXooPoETpXppPnAToXooPnUOXppPnOToXooPnEXooPnUToXooPoRXpnYToXooPoRXp
mZZITpXppPpETqXqqPoATpXppPoOXppPoEXppPoUXppPpRXqoYTpXppPpRXqmNZITpXppPpEXqqPoATpXppPoUOXqoOXpP
oEXpoUXppPpRXqoYTpXppPpRXqmSIToXooPoEXppPnAToXooPnUOXppPnOToXooPnEXooPnUToXooPoRXpnYToXooPoRXp
nSITpXppPpEXqqPoATpXppPoOTpXppPoEXppPoUTpXppPoYTpXppPpRXqmZHATpXppPoUOXqqPoOTpXppPoETpXppPoUTpXp
pPpRXqoYTpXppPpRXqmCHATpXppPoUOTqXqqPoOTpXppPoETpXppPoUXppPpRXqoYTpXppPpRXqmRRAXpoUOXqoOTpXppP
oETpXppPoUTpXppPpRXqoYTpXppPpRXqmNRATpXppPoOXppPoETpXppPoUTpXppPpRXqoYTpXppPpRXqmSHATpXppPoUOXq
qPoOTpXppPoETpXppPoUTpXppPpRXqoYTpXppPpRXqmRAToXooPnUOXppPnOToXooPnEXooPnUToXooPoRXpnYToXooPoRXp
mJIToXooPoETpXppPnUOTpXppPnOToXooPnUToXooPoRXpnYToXooPoRXpmQIToXooPoETpXppPnUOTpXppPnOToXooPnUT
oXooPoRXpnYToXooPoRXpmJJITpXppPpETqXqqPoUOXqqPoOTpXppPoUTpXppPpRXqoYTpXppPmNJITpXppPpETqXqqPoUOX
qoOTpXppPoUXppPpRXqoYTpXppPpRXqnYITpXppPpETqXqqPoUOXqqPoOTpXppPoUTpXppPmXIToXooPoETpXppPnUOXpnOT
oXooPnYToXooPoRXpmYIToXooPoETpXppPnUOTpXppPnOToXooPnUToXooPoRXpnYToXooPoRXp"⟩,
  ⟨0xa490, "
aYI RADICAL QOTlLIlKITlNYIPlCYPlSSIlGGOPmEPlMIlHXITlLYRlBBUTlMOPlYOlPUTlHXUOlTATlGAlZUPlCYTlDDUR
lBURlGGUOlNYOPlTUlOPlJJUTlZOTlPYTlHMOlYITlVURlSHYlVEPlZAlJOlNZUPlJJYlGOTlJJIElWOlDUlSHURlLIElCY
mUOPmIPlHXOPlSHATlZURlSHOPlCHElZZIETlNBIElKE"⟩,
  ⟨0xa4d0, "
aLISU LETTER BAmPAnHAmDAmTAnHAmGAmKAnHAmJAmCAnHAmDZAmTSAoHAmMAmNAmLAmSAmZHAnAmNGAmHAmXAmHHAmFA
mWAmSHAmYAmGHAmAnEmEnUmImOmUnEnHmOEmTONE MYA TIrNA POrMYA CYAvBOvNAvJEUfPUNCTUATION COMMA
rFULL STOPaVAI SYLLABLE EEpNnHEEnWEEqNnPEEnBHEEoEEnMBEEnKPEEnMGBEEnGBEEnFEEnVEEnTEEoHEEnDHEEpHEE
nLEEnREEnDEEnNDEEnSEEoHEEnZEEoHEEnCEEnJEEnNJEEnYEEnKEEnNGGEEnGEEnMEEnNEEoYEEnIoNnHIpNnWIpNnPI
nBHIoInMBInKPInMGBInGBInFInVInTIoHInDHIpHInLInRInDInNDInSIoHInZIoHInCInJInNJInYInKInNGGInGInMI
nNIoYInAoNnNGANnHApNnWApNnPAnBHAoAnMBAnKPAqNnMGBAnGBAnFAnVAnTAoHAnDHApHAnLAnRAnDAnNDAnSAoHAnZA
oHAnCAnJAnNJAnYAnKApNnNGGAnGAnMAnNAoYAnOOpNnHOOnWOOqNnPOOnBHOOoOOnMBOOnKPOOnMGBOOnGBOOnFOOnVOO
nTOOoHOOnDHOOpHOOnLOOnROOnDOOnNDOOnSOOoHOOnZOOoHOOnCOOnJOOnNJOOnYOOnKOOnNGGOOnGOOnMOOnNOOoYOOnU
oNnHUpNnWUpNnPUnBHUoUnMBUnKPUnMGBUnGBUnFUnVUnTUoHUnDHUpHUnLUnRUnDUnNDUnSUoHUnZUoHUnCUnJUnNJUnYU
nKUnNGGUnGUnMUnNUoYUnOoNnNGONnHOpNnWOpNnPOnBHOoOnMBOnKPOnMGBOnGBOqNnFOnVOnTOoHOnDHOpHOnLOnROnDO
nNDOnSOoHOnZOoHOnCOnJOnNJOnYOnKOnNGGOnGOnMOnNOoYOnEoNnNGENnHEpNnWEpNnPEnBHEoEnMBEnKPEqNnMGBEnGBE
qNnFEnVEnTEoHEnDHEpHEnLEnREnDEnNDEnSEoHEnZEoHEnCEnJEnNJEnYEnKEnNGGErNnGEpNnMEnNEoYEoGnLENGTHENER
eCOMMAeFULL STOPeQUESTION MARKeSYLLABLE NDOLE FAtKAtSOOgMBOL FEENGlKEENGlTINGlNIIlBANGlFAAlTAA
lDANGmOONGlKUNGlTONGlDO-OlJONGeDIGIT ZEROkONEkTWOlHREEkFOURlIVEkSIXlEVENkEIGHTkNINE
eSYLLABLE NDOLE MAtDO"⟩,
  ⟨0xa640, "
aCYRILLIC CAPITAL LETTER ZEMLYAjSMALL LETTER ZEMLYAjCAPITAL LETTER DZELOjSMALL LETTER DZELO
jCAPITAL LETTER REVERSED DZEjSMALL LETTER REVERSED DZEjCAPITAL LETTER IOTAjSMALL LETTER IOTA
jCAPITAL LETTER DJERVjSMALL LETTER DJERVjCAPITAL LETTER MONOGRAPH UKjSMALL LETTER MONOGRAPH UK
jCAPITAL LETTER BROAD OMEGAjSMALL LETTER BROAD OMEGAjCAPITAL LETTER NEUTRAL YER
jSMALL LETTER NEUTRAL YERjCAPITAL LETTER YERU WITH BACK YERjSMALL LETTER YERU WITH BACK YER
jCAPITAL LETTER IOTIFIED YATjSMALL LETTER IOTIFIED YATjCAPITAL LETTER REVERSED YU
jSMALL LETTER REVERSED YUjCAPITAL LETTER IOTIFIED AjSMALL LETTER IOTIFIED A
jCAPITAL LETTER CLOSED LITTLE YUSjSMALL LETTER CLOSED LITTLE YUSjCAPITAL LETTER BLENDED YUS
jSMALL LETTER BLENDED YUSjCAPITAL LETTER IOTIFIED CLOSED LITTLE YUS
jSMALL LETTER IOTIFIED CLOSED LITTLE YUSjCAPITAL LETTER YNjSMALL LETTER YN
jCAPITAL LETTER REVERSED TSEjSMALL LETTER REVERSED TSEjCAPITAL LETTER SOFT DE
jSMALL LETTER SOFT DEjCAPITAL LETTER SOFT ELjSMALL LETTER SOFT ELjCAPITAL LETTER SOFT EM
jSMALL LETTER SOFT EMjCAPITAL LETTER MONOCULAR OjSMALL LETTER MONOCULAR O
jCAPITAL LETTER BINOCULAR OjSMALL LETTER BINOCULAR OjCAPITAL LETTER DOUBLE MONOCULAR O
jSMALL LETTER DOUBLE MONOCULAR OjLETTER MULTIOCULAR ObOMBINING CYRILLIC VZMETtTEN MILLIONS SIGN
tHUNDRED MILLIONS SIGNtTHOUSAND MILLIONS SIGNaSLAVONIC ASTERISK
aCOMBINING CYRILLIC LETTER UKRAINIAN IEz Iz YIz Uz HARD SIGNz YERUz SOFT SIGNz OMEGAtKAVYKA
tPAYEROKbYRILLIC KAVYKAjPAYEROKjCAPITAL LETTER DWEjSMALL LETTER DWEjCAPITAL LETTER DZWE
jSMALL LETTER DZWEjCAPITAL LETTER ZHWEjSMALL LETTER ZHWEjCAPITAL LETTER CCHEjSMALL LETTER CCHE
jCAPITAL LETTER DZZEjSMALL LETTER DZZEjCAPITAL LETTER TE WITH MIDDLE HOOK
jSMALL LETTER TE WITH MIDDLE HOOKjCAPITAL LETTER TWEjSMALL LETTER TWEjCAPITAL LETTER TSWE
jSMALL LETTER TSWEjCAPITAL LETTER TSSEjSMALL LETTER TSSEjCAPITAL LETTER TCHEjSMALL LETTER TCHE
jCAPITAL LETTER HWEjSMALL LETTER HWEjCAPITAL LETTER SHWEjSMALL LETTER SHWE
jCAPITAL LETTER DOUBLE OjSMALL LETTER DOUBLE OjCAPITAL LETTER CROSSED OjSMALL LETTER CROSSED O
aMODIFIER LETTER CYRILLIC HARD SIGNzSOFT SIGNaCOMBINING CYRILLIC LETTER EFz IOTIFIED E
aBAMUM LETTER AnKAnUnKUnEEnREEnTAEnOnNYInInLAnPAnRIIpEEnLEEEEnMEEEEnTAAnNDAAoJAEMnMnSUUnMUnSHII
oIoHEUXoEUXnKYEEoETnNUAEpoJUAEnYOQnSHUnYUQoAnNSHAnKEUXnPEUXnNJEEoTEEnPUEnWUEnPEEnFEEnRUnLUnMInNI
nREUXoAEnKENnNGKWAENpGApAnSHOnPUAEnFUoOMnWAnNAnLInPInLOQnKOnMBENnRENnMENoAnTInKInMOoBAAnTETnKPA
nTENnNTUUnSAMBAnFAAMAEnKOVUUpGHOMgCOMBINING MARK KOQNDONvTUKWENTISgNJAEMLIgFULL STOPgCOLONiMMA
gSEMICOLONgQUESTION MARK"⟩,
  ⟨0xa700, "
aMODIFIER LETTER CHINESE TONE YIN PINGzONE YANG PINGzONE YIN SHANGzONE YANG SHANGzONE YIN QU
zONE YANG QUzONE YIN RUzONE YANG RUqEXTRA-HIGH DOTTED TONE BARqHIGH DOTTED TONE BAR
qMID DOTTED TONE BARqLOW DOTTED TONE BARqEXTRA-LOW DOTTED TONE BAR
wHIGH DOTTED LEFT-STEM TONE BARqHIGH DOTTED LEFT-STEM TONE BARqMID DOTTED LEFT-STEM TONE BAR
qLOW DOTTED LEFT-STEM TONE BARqEXTRA-LOW DOTTED LEFT-STEM TONE BARwHIGH LEFT-STEM TONE BAR
qHIGH LEFT-STEM TONE BARqMID LEFT-STEM TONE BARqLOW LEFT-STEM TONE BAR
qEXTRA-LOW LEFT-STEM TONE BARqDOT VERTICAL BARuSLASHuHORIZONTAL BARqLOWER RIGHT CORNER ANGLE
qRAISED UP ARROWxDOWN ARROWxEXCLAMATION MARKxINVERTED EXCLAMATION MARK
qLOW INVERTED EXCLAMATION MARKqSTRESS AND HIGH TONEzD LOW TONE
aLATIN CAPITAL LETTER EGYPTOLOGICAL ALEFgSMALL LETTER EGYPTOLOGICAL ALEF
gCAPITAL LETTER EGYPTOLOGICAL AINgSMALL LETTER EGYPTOLOGICAL AINgCAPITAL LETTER HENG
gSMALL LETTER HENGgCAPITAL LETTER TZgSMALL LETTER TZgCAPITAL LETTER TRESILLO
gSMALL LETTER TRESILLOgCAPITAL LETTER CUATRILLOgSMALL LETTER CUATRILLO
gCAPITAL LETTER CUATRILLO WITH COMMAgSMALL LETTER CUATRILLO WITH COMMAgLETTER SMALL CAPITAL F
zL SgCAPITAL LETTER AAgSMALL LETTER AAgCAPITAL LETTER AOgSMALL LETTER AOgCAPITAL LETTER AU
gSMALL LETTER AUgCAPITAL LETTER AVgSMALL LETTER AVgCAPITAL LETTER AV WITH HORIZONTAL BAR
gSMALL LETTER AV WITH HORIZONTAL BARgCAPITAL LETTER AYgSMALL LETTER AY
gCAPITAL LETTER REVERSED C WITH DOTgSMALL LETTER REVERSED C WITH DOT
gCAPITAL LETTER K WITH STROKEgSMALL LETTER K WITH STROKEgCAPITAL LETTER K WITH DIAGONAL STROKE
gSMALL LETTER K WITH DIAGONAL STROKEgCAPITAL LETTER K WITH STROKE AND DIAGONAL STROKE
gSMALL LETTER K WITH STROKE AND DIAGONAL STROKEgCAPITAL LETTER BROKEN LgSMALL LETTER BROKEN L
gCAPITAL LETTER L WITH HIGH STROKEgSMALL LETTER L WITH HIGH STROKE
gCAPITAL LETTER O WITH LONG STROKE OVERLAYgSMALL LETTER O WITH LONG STROKE OVERLAY
gCAPITAL LETTER O WITH LOOPgSMALL LETTER O WITH LOOPgCAPITAL LETTER OOgSMALL LETTER OO
gCAPITAL LETTER P WITH STROKE THROUGH DESCENDERgSMALL LETTER P WITH STROKE THROUGH DESCENDER
gCAPITAL LETTER P WITH FLOURISHgSMALL LETTER P WITH FLOURISHgCAPITAL LETTER P WITH SQUIRREL TAIL
gSMALL LETTER P WITH SQUIRREL TAILgCAPITAL LETTER Q WITH STROKE THROUGH DESCENDER
gSMALL LETTER Q WITH STROKE THROUGH DESCENDERgCAPITAL LETTER Q WITH DIAGONAL STROKE
gSMALL LETTER Q WITH DIAGONAL STROKEgCAPITAL LETTER R ROTUNDAgSMALL LETTER R ROTUNDA
gCAPITAL LETTER RUM ROTUNDAgSMALL LETTER RUM ROTUNDAgCAPITAL LETTER V WITH DIAGONAL STROKE
gSMALL LETTER V WITH DIAGONAL STROKEgCAPITAL LETTER VYgSMALL LETTER VY
gCAPITAL LETTER VISIGOTHIC ZgSMALL LETTER VISIGOTHIC ZgCAPITAL LETTER THORN WITH STROKE
gSMALL LETTER THORN WITH STROKEgCAPITAL LETTER THORN WITH STROKE THROUGH DESCENDER
gSMALL LETTER THORN WITH STROKE THROUGH DESCENDERgCAPITAL LETTER VENDgSMALL LETTER VEND
gCAPITAL LETTER ETgSMALL LETTER ETgCAPITAL LETTER ISgSMALL LETTER ISgCAPITAL LETTER CON
gSMALL LETTER CONaMODIFIER LETTER USaLATIN SMALL LETTER DUMtLUMtMUMtNUMtRUM
gLETTER SMALL CAPITAL RUMgSMALL LETTER TUMtUMgCAPITAL LETTER INSULAR DgSMALL LETTER INSULAR D
gCAPITAL LETTER INSULAR FgSMALL LETTER INSULAR FgCAPITAL LETTER INSULAR GvTURNED INSULAR G
gSMALL LETTER TURNED INSULAR GgCAPITAL LETTER TURNED LgSMALL LETTER TURNED L
gCAPITAL LETTER INSULAR RgSMALL LETTER INSULAR RgCAPITAL LETTER INSULAR SgSMALL LETTER INSULAR S
gCAPITAL LETTER INSULAR TgSMALL LETTER INSULAR TaMODIFIER LETTER LOW CIRCUMFLEX ACCENTqCOLON
qSHORT EQUALS SIGNaLATIN CAPITAL LETTER SALTILLOgSMALL LETTER SALTILLOgCAPITAL LETTER TURNED H
gSMALL LETTER L WITH RETROFLEX HOOK AND BELTgLETTER SINOLOGICAL DOT
gCAPITAL LETTER N WITH DESCENDERgSMALL LETTER N WITH DESCENDERgCAPITAL LETTER C WITH BAR
gSMALL LETTER C WITH BARz PALATAL HOOKtH WITH PALATAL HOOKgCAPITAL LETTER B WITH FLOURISH
gSMALL LETTER B WITH FLOURISHgCAPITAL LETTER F WITH STROKEgSMALL LETTER F WITH STROKE
gCAPITAL LETTER VOLAPUK AEgSMALL LETTER VOLAPUK AEgCAPITAL LETTER VOLAPUK OE
gSMALL LETTER VOLAPUK OEgCAPITAL LETTER VOLAPUK UEgSMALL LETTER VOLAPUK UE
gCAPITAL LETTER G WITH OBLIQUE STROKEgSMALL LETTER G WITH OBLIQUE STROKE
gCAPITAL LETTER K WITH OBLIQUE STROKEgSMALL LETTER K WITH OBLIQUE STROKE
gCAPITAL LETTER N WITH OBLIQUE STROKEgSMALL LETTER N WITH OBLIQUE STROKE
gCAPITAL LETTER R WITH OBLIQUE STROKEgSMALL LETTER R WITH OBLIQUE STROKE
gCAPITAL LETTER S WITH OBLIQUE STROKEgSMALL LETTER S WITH OBLIQUE STROKE
gCAPITAL LETTER H WITH HOOKvREVERSED OPEN EvSCRIPT GvL WITH BELTvSMALL CAPITAL I
gLETTER SMALL CAPITAL QgCAPITAL LETTER TURNED KzED TvJ WITH CROSSED-TAILvCHIvBETA
gSMALL LETTER BETAgCAPITAL LETTER OMEGAgSMALL LETTER OMEGAgCAPITAL LETTER U WITH STROKE
gSMALL LETTER U WITH STROKEgCAPITAL LETTER GLOTTAL AgSMALL LETTER GLOTTAL A
gCAPITAL LETTER GLOTTAL IgSMALL LETTER GLOTTAL IgCAPITAL LETTER GLOTTAL UgSMALL LETTER GLOTTAL U
gCAPITAL LETTER OLD POLISH OgSMALL LETTER OLD POLISH OgCAPITAL LETTER ANGLICANA W
gSMALL LETTER ANGLICANA WgCAPITAL LETTER C WITH PALATAL HOOKvS WITH HOOKvZ WITH PALATAL HOOK
vD WITH SHORT STROKE OVERLAYgSMALL LETTER D WITH SHORT STROKE OVERLAY
gCAPITAL LETTER S WITH SHORT STROKE OVERLAYgSMALL LETTER S WITH SHORT STROKE OVERLAY"⟩,
  ⟨0xa7d0, "aLATIN CAPITAL LETTER CLOSED INSULAR GgSMALL LETTER CLOSED INSULAR G"⟩,
  ⟨0xa7d3, "aLATIN SMALL LETTER DOUBLE THORN"⟩,
  ⟨0xa7d5, "
aLATIN SMALL LETTER DOUBLE WYNNgCAPITAL LETTER MIDDLE SCOTS SgSMALL LETTER MIDDLE SCOTS S
gCAPITAL LETTER SIGMOID SgSMALL LETTER SIGMOID S"⟩,
  ⟨0xa7f2, "
aMODIFIER LETTER CAPITAL CyFyQaLATIN CAPITAL LETTER REVERSED HALF HgSMALL LETTER REVERSED HALF H
gEPIGRAPHIC LETTER SIDEWAYS IaMODIFIER LETTER CAPITAL H WITH STROKEqSMALL LIGATURE OE
aLATIN LETTER SMALL CAPITAL TURNED MgEPIGRAPHIC LETTER REVERSED FzEVERSED PyINVERTED Mz LONGA
yARCHAIC MaSYLOTI NAGRI LETTER AuInSIGN DVISVARAnLETTER UuEuOnSIGN HASANTAnLETTER KOvHOuGOvHO
nSIGN ANUSVARAnLETTER COvHOuJOvHOuTTOwHOuDDOwHOuTOvHOuDOvHOuNOuPOvHOuBOvHOuMOuROuLOuRROuSOuHO
nVOWEL SIGN AyIyUyEyOOnPOETRY MARK-1z2z3z4nSIGN ALTERNATE HASANTA"⟩,
  ⟨0xa830, "
aNORTH INDIC FRACTION ONE QUARTERzHALFvTHREE QUARTERSvONE SIXTEENTHzEIGHTHvTHREE SIXTEENTHS
mQUARTER MARKmPLACEHOLDER MARKmRUPEE MARKmQUANTITY MARK"⟩,
  ⟨0xa840, "
aPHAGS-PA LETTER KArHAqGAqNGAqCArHAqJAqNYAqTArHAqDAqNAqPArHAqBAqMAqTSAsHAqDZAqWAqZHArAqSMALL A
qYAqRAqLAqSHArAqHAqAqIqUqEqOqQAqXAqFAqGGAqEEjSUBJOINED LETTER WAz YAjLETTER TTAsHAqDDAqNNA
qALTERNATE YAqVOICELESS SHAvD HAqASPIRATED FAjSUBJOINED LETTER RAlPERFIXED LETTER RA
jLETTER CANDRABINDUjSINGLE HEAD MARKjDOUBLE HEAD MARKjMARK SHADoDOUBLE SHAD"⟩,
  ⟨0xa880, "
aSAURASHTRA SIGN ANUSVARAqVISARGAlLETTER AtAsItIsUtUsVOCALIC Rz RRz Lz LLsEtEsAIsOtOsAUsKAtHAsGA
tHAsNGAsCAtHAsJAtHAsNYAsTTAuHAsDDAuHAsNNAsTAtHAsDAtHAsNAsPAtHAsBAtHAsMAsYAsRAsLAsVAsSHAtSAtAsHA
sLLAlCONSONANT SIGN HAARUlVOWEL SIGN AAwIxIwUxUwVOCALIC RzALIC RRzALIC LzALIC LLwExEwAIwOxOwAU
lSIGN VIRAMAqCANDRABINDU"⟩,
  ⟨0xa8ce, "
aSAURASHTRA DANDAmOUBLE DANDAmIGIT ZEROrONErTWOsHREErFOURsIVErSIXsEVENrEIGHTrNINE"⟩,
  ⟨0xa8e0, "
aCOMBINING DEVANAGARI DIGIT ZEROzT ONEzT TWOzT THREEzT FOURzT FIVEzT SIXzT SEVENzT EIGHTzT NINE
vLETTER AzER UzER KAzER NAzER PAzER RAzER VIvSIGN AVAGRAHAaDEVANAGARI SIGN SPACING CANDRABINDU
qCANDRABINDU VIRAMAqDOUBLE CANDRABINDU VIRAMAqCANDRABINDU TWOzDU THREEzDU AVAGRAHAqPUSHPIKA
lGAP FILLERlCARETlHEADSTROKElSIGN SIDDHAMlJAIN OMlLETTER AYlVOWEL SIGN AYaKAYAH LI DIGIT ZERO
pONEpTWOqHREEpFOURqIVEpSIXqEVENpEIGHTpNINEjLETTER KArHAqGAqNGAqSArHAqZAqNYAqTAqHTAqNAqPArHAqMA
qDAqBAqRAqYAqLAqWAqTHAqHAqVAqCAqAqOEqIqOOjVOWEL UEpEpUpEEpOjTONE PLOPHUoCALYAt PLOPHUjSIGN CWI
oSHYAaREJANG LETTER KAoGAoNGAoTAoDAoNAoPAoBAoMAoCAoJAoNYAoSAoRAoLAoYAoWAoHAoMBAoNGGApDApYJAoA
hVOWEL SIGN IsUsEsAIsOsAUsEUtAhCONSONANT SIGN NGxwRwHhVIRAMA"⟩,
  ⟨0xa95f, "
aREJANG SECTION MARKaHANGUL CHOSEONG TIKEUT-MIEUMxPIEUPxSIOSxCIEUCqRIEUL-KIYEOKwSSANGKIYEOK
wTIKEUTwSSANGTIKEUTwMIEUMwPIEUPwSSANGPIEUPwKAPYEOUNPIEUPwSIOSwCIEUCwKHIEUKHqMIEUM-KIYEOKwTIKEUT
wSIOSqPIEUP-SIOS-THIEUTHwKHIEUKHwHIEUHqSSANGSIOS-PIEUPqIEUNG-RIEULwHIEUHqSSANGCIEUC-HIEUH
vTHIEUTHqPHIEUPH-HIEUHqHIEUH-SIOSqSSANGYEORINHIEUH"⟩,
  ⟨0xa980, "
aJAVANESE SIGN PANYANGGAoCECAKoLAYARoWIGNYANjLETTER AqI KAWIrrIqUqPA CEREKqNGA LELETz RASWADIqE
qAIqOqKAs SASAKtMURDAqGAs MURDAqNGAqCAs MURDAqJAqNYA MURDAqJA MAHAPRANAqNYAqTTAt MAHAPRANAqDDA
t MAHAPRANAqNA MURDAqTAs MURDAqDAs MAHAPRANAqNAqPAs MURDAqBAs MURDAqMAqYAqRAs AGUNGqLAqWA
qSA MURDAuAHAPRANAsqHAjSIGN CECAK TELUjVOWEL SIGN TARUNGvOLONGuWULUy MELIKuSUKUy MENDUTuTALING
uDIRGA MUREuPEPETjCONSONANT SIGN KERETyPENGKALyCAKRAjPANGKONjLEFT RERENGGANjRIGHT RERENGGAN
jPADA ANDAPoMADYAoLUHURoWINDUoPANGKAToLINGSApUNGSIoADEGs ADEGoPISELEHjTURNED PADA PISELEH"⟩,
  ⟨0xa9cf, "aJAVANESE PANGRANGKEPjDIGIT ZEROpONEpTWOqHREEpFOURqIVEpSIXqEVENpEIGHTpNINE"⟩,
  ⟨0xa9de, "
aJAVANESE PADA TIRTA TUMETESoISEN-ISENaMYANMAR LETTER SHAN GHAuCHAuJHAuNNAuBHAiSIGN SHAN SAW
iMODIFIER LETTER SHAN REDUPLICATIONiLETTER TAI LAING NYAzFAzGAzGHAzJAzJHAzDDAzDDHAzNNA
iTAI LAING DIGIT ZEROyONEyTWOzHREEyFOURzIVEySIXzEVENyEIGHTyNINEiLETTER TAI LAING LLAzDAzDHAzBA
zBHA"⟩,
  ⟨0xaa00, "
aCHAM LETTER AmImUmEmAImOmKAnHAmGAnHAmNGUEoAmCHAoHAmJAnHAmNHUEoAoJAmTAnHAmDAnHAmNUEnAmDDAmPAnPA
nHAmBAnHAmMUEnAmBBAmYAmRAmLAmVAmSSAnAmHAfVOWEL SIGN AAqIrIqEIqUqOErqAIrUqUEfCONSONANT SIGN YAuRA
uLAuWA"⟩,
  ⟨0xaa40, "
aCHAM LETTER FINAL KsGsNGfCONSONANT SIGN FINAL NGfLETTER FINAL CHsTsNsPsYsRsLsSS
fCONSONANT SIGN FINAL Mz H"⟩,
  ⟨0xaa50, "aCHAM DIGIT ZEROlONElTWOmHREElFOURmIVElSIXmEVENlEIGHTlNINE"⟩,
  ⟨0xaa5c, "
aCHAM PUNCTUATION SPIRALrDANDAsOUBLE DANDArTRIPLE DANDAaMYANMAR LETTER KHAMTI GAwCAxHAwJAxHAwNYA
wTTAyHAwDDAyHAxHAwNAwSAwHAxHAwFAiMODIFIER LETTER KHAMTI REDUPLICATIONiLETTER KHAMTI XAwZAwRA
jOGOGRAM KHAMTI OAYyQNyHMiSYMBOL AITON EXCLAMATIONvONEvTWOiLETTER AITON RAiSIGN PAO KAREN TONE
nTAI LAING TONE-2zNE-5iLETTER SHWE PALAUNG CHAzNG SHAaTAI VIET LETTER LOW KOqHIGH KOqLOW KHO
qHIGH KHOqLOW KHHOqHIGH KHHOqLOW GOqHIGH GOqLOW NGOqHIGH NGOqLOW COqHIGH COqLOW CHOqHIGH CHO
qLOW SOqHIGH SOqLOW NYOqHIGH NYOqLOW DOqHIGH DOqLOW TOqHIGH TOqLOW THOqHIGH THOqLOW NOqHIGH NO
qLOW BOqHIGH BOqLOW POqHIGH POqLOW PHOqHIGH PHOqLOW FOqHIGH FOqLOW MOqHIGH MOqLOW YOqHIGH YO
qLOW ROqHIGH ROqLOW LOqHIGH LOqLOW VOqHIGH VOqLOW HOqHIGH HOqLOW OqHIGH OjMAI KANGjVOWEL AApIpUE
qpEpOjMAI KHITjVOWEL IApUEAqApAUEqYqNqMjTONE MAI EKsNUENGsTHOsSONG"⟩,
  ⟨0xaadb, "
aTAI VIET SYMBOL KONqNUENGqSAMqHO HOIqKOI KOIaMEETEI MAYEK LETTER EuOuCHAuNYAuTTAwHAuDDAwHAuNNA
uSHAvSAnVOWEL SIGN IIyUUyAAIzUzAUnCHEIKHANnAHANG KHUDAMoNJInSYLLABLE REPETITION MARK
nWORD REPETITION MARKnVOWEL SIGN VISARGAoIRAMA"⟩,
  ⟨0xab01, "aETHIOPIC SYLLABLE TTHUvIvAAvEEwvO"⟩,
  ⟨0xab09, "aETHIOPIC SYLLABLE DDHUvIvAAvEEwvO"⟩,
  ⟨0xab11, "aETHIOPIC SYLLABLE DZUuIuAAuEEvuO"⟩,
  ⟨0xab20, "aETHIOPIC SYLLABLE CCHHAwUwIwAAwEExwO"⟩,
  ⟨0xab28, "aETHIOPIC SYLLABLE BBAuUuIuAAuEEvuO"⟩,
  ⟨0xab30, "
aLATIN SMALL LETTER BARRED ALPHAtA REVERSED-SCHWAtBLACKLETTER EuARRED EtE WITH FLOURISHtLENIS F
tSCRIPT G WITH CROSSED-TAILtL WITH INVERTED LAZY Sz DOUBLE MIDDLE TILDEz MIDDLE RING
tM WITH CROSSED-TAILtN WITH CROSSED-TAILtENG WITH CROSSED-TAILtBLACKLETTER OzETTER O WITH STROKE
tOPEN O WITH STROKEtINVERTED OEtTURNED OE WITH STROKEz OE WITH HORIZONTAL STROKEz O OPEN-O
z O OPEN-O WITH STROKEtSTIRRUP RgLETTER SMALL CAPITAL R WITH RIGHT LEG
gSMALL LETTER R WITHOUT HANDLEtDOUBLE RtR WITH CROSSED-TAILtDOUBLE R WITH CROSSED-TAILtSCRIPT R
z R WITH RINGtBASELINE ESHtU WITH SHORT RIGHT LEGvBAR WITH SHORT RIGHT LEGuItTURNED UI
tU WITH LEFT HOOKtCHIw WITH LOW RIGHT RINGzTH LOW LEFT SERIFtX WITH LOW RIGHT RING
z LONG LEFT LEGz LONG LEFT LEG AND LOW RIGHT RINGz LONG LEFT LEG WITH SERIF
tY WITH SHORT RIGHT LEGaMODIFIER BREVE WITH INVERTED BREVEjLETTER SMALL HENG
wL WITH INVERTED LAZY SzITH MIDDLE TILDEwU WITH LEFT HOOKaLATIN SMALL LETTER SAKHA YAT
tIOTIFIED EtOPEN OEtUOtINVERTED ALPHAaGREEK LETTER SMALL CAPITAL OMEGA
aLATIN SMALL LETTER DZ DIGRAPH WITH RETROFLEX HOOKtTS DIGRAPH WITH RETROFLEX HOOK
uURNED R WITH MIDDLE TILDEaMODIFIER LETTER SMALL TURNED WqLEFT TACKqRIGHT TACK"⟩,
  ⟨0xab70, "
aCHEROKEE SMALL LETTER AwEwIwOwUwVwGAwKAwGExIxOxUxVwHAxExIxOxUxVwLAxExIxOxUxVwMAxExIxOxUwNAwHNA
wNAHxExIxOxUxVwQUAyEyIyOyUyVwSAxxExIxOxUxVwDAwTAwDEwTEwDIwTIwDOxUxVxLAwTLAyEyIyOyUyVxSAyEyIyOyU
yVwWAxExIxOxUxVwYAaMEETEI MAYEK LETTER KOKuSAMuLAIuMITuPAuNAuCHILuTILuKHOUuNGOUuTHOUuWAIuYANG
uHUKuUNuIuPHAMuATIYAuGOKuJHAMuRAIuBAuJILuDILuGHOUuDHOUuBHAMuKOK LONSUMuLAI LONSUMuMIT LONSUM
uPA LONSUMuNA LONSUMuTIL LONSUMuNGOU LONSUMuI LONSUMnVOWEL SIGN ONAPyINAPyANAPyYENAPySOUNAPyUNAP
yCHEINAPyNUNGnCHEIKHEInLUM IYEKnAPUN IYEK"⟩,
  ⟨0xabf0, "aMEETEI MAYEK DIGIT ZEROtONEtTWOuHREEtFOURuIVEtSIXuEVENtEIGHTtNINE"⟩,
  ⟨0xd7b0, "
aHANGUL JUNGSEONG O-YEOtO-IrYO-AvEuEOrU-YEOtI-IrYU-AEuOrEU-AuEOvuOrI-YA-OvEuEOvtO-ItYOuUtI
rARAEA-AxE"⟩,
  ⟨0xd7cb, "
aHANGUL JONGSEONG NIEUN-RIEULxCHIEUCHrSSANGTIKEUTzEUT-PIEUPrTIKEUT-PIEUPySIOSzIOS-KIYEOKyCIEUC
zHIEUCHyTHIEUTHrRIEUL-SSANGKIYEOKxKIYEOK-HIEUHrSSANGRIEUL-KHIEUKHrRIEUL-MIEUM-HIEUHxPIEUP-TIKEUT
zEUP-PHIEUPHxYESIEUNGzORINHIEUH-HIEUHrKAPYEOUNRIEULrMIEUM-NIEUNxSSANGNIEUNrSSANGMIEUM
rMIEUM-PIEUP-SIOSxCIEUCrPIEUP-TIKEUTxRIEUL-PHIEUPHxMIEUMrSSANGPIEUPrPIEUP-SIOS-TIKEUTxCIEUC
yHIEUCHrSIOS-MIEUMwKAPYEOUNPIEUPsSANGSIOS-KIYEOKzS-TIKEUTsIOS-PANSIOSwCIEUCxHIEUCHwTHIEUTHwHIEUH
rPANSIOS-PIEUPzKAPYEOUNPIEUPrYESIEUNG-MIEUMz-HIEUHrCIEUC-PIEUPxSSANGPIEUPrSSANGCIEUC
rPHIEUPH-SIOSzTHIEUTH"⟩,
  ⟨0xfb00, "aLATIN SMALL LIGATURE FFwIwLwFIxLvLONG S TvST"⟩,
  ⟨0xfb13, "aARMENIAN SMALL LIGATURE MEN NOWzEN ECHzEN INIyVEW NOWyMEN XEH"⟩,
  ⟨0xfb1d, "
aHEBREW LETTER YOD WITH HIRIQhPOINT JUDEO-SPANISH VARIKAhLIGATURE YIDDISH YOD YOD PATAH
iETTER ALTERNATIVE AYINoWIDE ALEFtDALETtHEtKAFtLAMEDtFINAL MEMtRESHtTAVoALTERNATIVE PLUS SIGN
oSHIN WITH SHIN DOTzIN DOTyDAGESH AND SHIN DOTzAGESH AND SIN DOToALEF WITH PATAHyQAMATSyMAPIQ
oBET WITH DAGESHoGIMEL WITH DAGESHoDALET WITH DAGESHoHE WITH MAPIQoVAV WITH DAGESH
oZAYIN WITH DAGESH"⟩,
  ⟨0xfb38, "
aHEBREW LETTER TET WITH DAGESHoYOD WITH DAGESHoFINAL KAF WITH DAGESHoKAF WITH DAGESH
oLAMED WITH DAGESH"⟩,
  ⟨0xfb3e, "aHEBREW LETTER MEM WITH DAGESH"⟩,
  ⟨0xfb40, "aHEBREW LETTER NUN WITH DAGESHoSAMEKH WITH DAGESH"⟩,
  ⟨0xfb43, "aHEBREW LETTER FINAL PE WITH DAGESHoPE WITH DAGESH"⟩,
  ⟨0xfb46, "
aHEBREW LETTER TSADI WITH DAGESHoQOF WITH DAGESHoRESH WITH DAGESHoSHIN WITH DAGESH
oTAV WITH DAGESHoVAV WITH HOLAMoBET WITH RAFEoKAF WITH RAFEoPE WITH RAFEiIGATURE ALEF LAMED
aARABIC LETTER ALEF WASLA ISOLATED FORMzFINAL FORMoBEEH ISOLATED FORMtFINAL FORMtINITIAL FORM
tMEDIAL FORMoPEH ISOLATED FORMsFINAL FORMsINITIAL FORMsMEDIAL FORMoBEHEH ISOLATED FORM
uFINAL FORMuINITIAL FORMuMEDIAL FORMoTTEHEH ISOLATED FORMvFINAL FORMvINITIAL FORMvMEDIAL FORM
pEHEH ISOLATED FORMuFINAL FORMuINITIAL FORMuMEDIAL FORMpTEH ISOLATED FORMtFINAL FORM
tINITIAL FORMtMEDIAL FORMoVEH ISOLATED FORMsFINAL FORMsINITIAL FORMsMEDIAL FORM
oPEHEH ISOLATED FORMuFINAL FORMuINITIAL FORMuMEDIAL FORMoDYEH ISOLATED FORMtFINAL FORM
tINITIAL FORMtMEDIAL FORMoNYEH ISOLATED FORMtFINAL FORMtINITIAL FORMtMEDIAL FORM
oTCHEH ISOLATED FORMuFINAL FORMuINITIAL FORMuMEDIAL FORMtEH ISOLATED FORMwFINAL FORM
wINITIAL FORMwMEDIAL FORMoDDAHAL ISOLATED FORMvFINAL FORMpAHAL ISOLATED FORMuFINAL FORM
pUL ISOLATED FORMsFINAL FORMpDAL ISOLATED FORMtFINAL FORMoJEH ISOLATED FORMsFINAL FORM
oRREH ISOLATED FORMtFINAL FORMoKEHEH ISOLATED FORMuFINAL FORMuINITIAL FORMuMEDIAL FORM
oGAF ISOLATED FORMsFINAL FORMsINITIAL FORMsMEDIAL FORMpUEH ISOLATED FORMtFINAL FORMtINITIAL FORM
tMEDIAL FORMoNGOEH ISOLATED FORMuFINAL FORMuINITIAL FORMuMEDIAL FORMpOON GHUNNA ISOLATED FORM
z FINAL FORMoRNOON ISOLATED FORMuFINAL FORMuINITIAL FORMuMEDIAL FORM
oHEH WITH YEH ABOVE ISOLATED FORMzH ABOVE FINAL FORMsGOAL ISOLATED FORMxFINAL FORMxINITIAL FORM
xMEDIAL FORMsDOACHASHMEE ISOLATED FORMzHMEE FINAL FORMzHMEE INITIAL FORMzHMEE MEDIAL FORM
oYEH BARREE ISOLATED FORMzFINAL FORMzWITH HAMZA ABOVE ISOLATED FORMzWITH HAMZA ABOVE FINAL FORM
hSYMBOL DOT ABOVEsBELOWoTWO DOTS ABOVExBELOWpHREE DOTS ABOVEzBELOWzPOINTING DOWNWARDS ABOVE
zPOINTING DOWNWARDS BELOWoFOUR DOTS ABOVEyBELOWoDOUBLE VERTICAL BAR BELOW
oTWO DOTS VERTICALLY ABOVEzRTICALLY BELOWoRINGoSMALL TAH ABOVEyBELOWoWASLA ABOVE"⟩,
  ⟨0xfbd3, "
aARABIC LETTER NG ISOLATED FORMrFINAL FORMrINITIAL FORMrMEDIAL FORMoU ISOLATED FORMqFINAL FORM
oOE ISOLATED FORMrFINAL FORMoYU ISOLATED FORMrFINAL FORMoU WITH HAMZA ABOVE ISOLATED FORM
oVE ISOLATED FORMrFINAL FORMoKIRGHIZ OE ISOLATED FORMzFINAL FORMwYU ISOLATED FORMzFINAL FORM
oE ISOLATED FORMqFINAL FORMqINITIAL FORMqMEDIAL FORM
oUIGHUR KAZAKH KIRGHIZ ALEF MAKSURA INITIAL FORMzKH KIRGHIZ ALEF MAKSURA MEDIAL FORM
iIGATURE YEH WITH HAMZA ABOVE WITH ALEF ISOLATED FORMzHAMZA ABOVE WITH ALEF FINAL FORM
zHAMZA ABOVE WITH AE ISOLATED FORMzHAMZA ABOVE WITH AE FINAL FORM
zHAMZA ABOVE WITH WAW ISOLATED FORMzHAMZA ABOVE WITH WAW FINAL FORM
zHAMZA ABOVE WITH U ISOLATED FORMzHAMZA ABOVE WITH U FINAL FORM
zHAMZA ABOVE WITH OE ISOLATED FORMzHAMZA ABOVE WITH OE FINAL FORM
zHAMZA ABOVE WITH YU ISOLATED FORMzHAMZA ABOVE WITH YU FINAL FORM
zHAMZA ABOVE WITH E ISOLATED FORMzHAMZA ABOVE WITH E FINAL FORMzHAMZA ABOVE WITH E INITIAL FORM
qUIGHUR KIRGHIZ YEH WITH HAMZA ABOVE WITH ALEF MAKSURA ISOLATED FORM
zRGHIZ YEH WITH HAMZA ABOVE WITH ALEF MAKSURA FINAL FORM
zRGHIZ YEH WITH HAMZA ABOVE WITH ALEF MAKSURA INITIAL FORMiETTER FARSI YEH ISOLATED FORM
yFINAL FORMyINITIAL FORMyMEDIAL FORMiIGATURE YEH WITH HAMZA ABOVE WITH JEEM ISOLATED FORM
zHAMZA ABOVE WITH HAH ISOLATED FORMzHAMZA ABOVE WITH MEEM ISOLATED FORM
zHAMZA ABOVE WITH ALEF MAKSURA ISOLATED FORMzHAMZA ABOVE WITH YEH ISOLATED FORM
qBEH WITH JEEM ISOLATED FORMzHAH ISOLATED FORMzKHAH ISOLATED FORMzMEEM ISOLATED FORM
zALEF MAKSURA ISOLATED FORMzYEH ISOLATED FORMqTEH WITH JEEM ISOLATED FORMzHAH ISOLATED FORM
zKHAH ISOLATED FORMzMEEM ISOLATED FORMzALEF MAKSURA ISOLATED FORMzYEH ISOLATED FORM
rHEH WITH JEEM ISOLATED FORMz MEEM ISOLATED FORMz ALEF MAKSURA ISOLATED FORMz YEH ISOLATED FORM
qJEEM WITH HAH ISOLATED FORMz MEEM ISOLATED FORMqHAH WITH JEEM ISOLATED FORMzMEEM ISOLATED FORM
qKHAH WITH JEEM ISOLATED FORMz HAH ISOLATED FORMz MEEM ISOLATED FORM
qSEEN WITH JEEM ISOLATED FORMz HAH ISOLATED FORMz KHAH ISOLATED FORMz MEEM ISOLATED FORM
rAD WITH HAH ISOLATED FORMzMEEM ISOLATED FORMqDAD WITH JEEM ISOLATED FORMzHAH ISOLATED FORM
zKHAH ISOLATED FORMzMEEM ISOLATED FORMqTAH WITH HAH ISOLATED FORMzMEEM ISOLATED FORM
qZAH WITH MEEM ISOLATED FORMqAIN WITH JEEM ISOLATED FORMzMEEM ISOLATED FORM
qGHAIN WITH JEEM ISOLATED FORMzH MEEM ISOLATED FORMqFEH WITH JEEM ISOLATED FORM
zHAH ISOLATED FORMzKHAH ISOLATED FORMzMEEM ISOLATED FORMzALEF MAKSURA ISOLATED FORM
zYEH ISOLATED FORMqQAF WITH HAH ISOLATED FORMzMEEM ISOLATED FORMzALEF MAKSURA ISOLATED FORM
zYEH ISOLATED FORMqKAF WITH ALEF ISOLATED FORMzJEEM ISOLATED FORMzHAH ISOLATED FORM
zKHAH ISOLATED FORMzLAM ISOLATED FORMzMEEM ISOLATED FORMzALEF MAKSURA ISOLATED FORM
zYEH ISOLATED FORMqLAM WITH JEEM ISOLATED FORMzHAH ISOLATED FORMzKHAH ISOLATED FORM
zMEEM ISOLATED FORMzALEF MAKSURA ISOLATED FORMzYEH ISOLATED FORMqMEEM WITH JEEM ISOLATED FORM
z HAH ISOLATED FORMz KHAH ISOLATED FORMz MEEM ISOLATED FORMz ALEF MAKSURA ISOLATED FORM
z YEH ISOLATED FORMqNOON WITH JEEM ISOLATED FORMz HAH ISOLATED FORMz KHAH ISOLATED FORM
z MEEM ISOLATED FORMz ALEF MAKSURA ISOLATED FORMz YEH ISOLATED FORMqHEH WITH JEEM ISOLATED FORM
zMEEM ISOLATED FORMzALEF MAKSURA ISOLATED FORMzYEH ISOLATED FORMqYEH WITH JEEM ISOLATED FORM
zHAH ISOLATED FORMzKHAH ISOLATED FORMzMEEM ISOLATED FORMzALEF MAKSURA ISOLATED FORM
zYEH ISOLATED FORMqTHAL WITH SUPERSCRIPT ALEF ISOLATED FORM
qREH WITH SUPERSCRIPT ALEF ISOLATED FORMqALEF MAKSURA WITH SUPERSCRIPT ALEF ISOLATED FORM
qSHADDA WITH DAMMATAN ISOLATED FORMzTH KASRATAN ISOLATED FORMzTH FATHA ISOLATED FORM
zTH DAMMA ISOLATED FORMzTH KASRA ISOLATED FORMzTH SUPERSCRIPT ALEF ISOLATED FORM
qYEH WITH HAMZA ABOVE WITH REH FINAL FORMzHAMZA ABOVE WITH ZAIN FINAL FORM
zHAMZA ABOVE WITH MEEM FINAL FORMzHAMZA ABOVE WITH NOON FINAL FORM
zHAMZA ABOVE WITH ALEF MAKSURA FINAL FORMzHAMZA ABOVE WITH YEH FINAL FORM
qBEH WITH REH FINAL FORMzZAIN FINAL FORMzMEEM FINAL FORMzNOON FINAL FORMzALEF MAKSURA FINAL FORM
zYEH FINAL FORMqTEH WITH REH FINAL FORMzZAIN FINAL FORMzMEEM FINAL FORMzNOON FINAL FORM
zALEF MAKSURA FINAL FORMzYEH FINAL FORMrHEH WITH REH FINAL FORMz ZAIN FINAL FORM
z MEEM FINAL FORMz NOON FINAL FORMz ALEF MAKSURA FINAL FORMz YEH FINAL FORM
qFEH WITH ALEF MAKSURA FINAL FORMzYEH FINAL FORMqQAF WITH ALEF MAKSURA FINAL FORMzYEH FINAL FORM
qKAF WITH ALEF FINAL FORMzLAM FINAL FORMzMEEM FINAL FORMzALEF MAKSURA FINAL FORMzYEH FINAL FORM
qLAM WITH MEEM FINAL FORMzALEF MAKSURA FINAL FORMzYEH FINAL FORMqMEEM WITH ALEF FINAL FORM
z MEEM FINAL FORMqNOON WITH REH FINAL FORMz ZAIN FINAL FORMz MEEM FINAL FORMz NOON FINAL FORM
z ALEF MAKSURA FINAL FORMz YEH FINAL FORMqALEF MAKSURA WITH SUPERSCRIPT ALEF FINAL FORM
qYEH WITH REH FINAL FORMzZAIN FINAL FORMzMEEM FINAL FORMzNOON FINAL FORMzALEF MAKSURA FINAL FORM
zYEH FINAL FORMzHAMZA ABOVE WITH JEEM INITIAL FORMzHAMZA ABOVE WITH HAH INITIAL FORM
zHAMZA ABOVE WITH KHAH INITIAL FORMzHAMZA ABOVE WITH MEEM INITIAL FORM
zHAMZA ABOVE WITH HEH INITIAL FORMqBEH WITH JEEM INITIAL FORMzHAH INITIAL FORMzKHAH INITIAL FORM
zMEEM INITIAL FORMzHEH INITIAL FORMqTEH WITH JEEM INITIAL FORMzHAH INITIAL FORM
zKHAH INITIAL FORMzMEEM INITIAL FORMzHEH INITIAL FORMrHEH WITH MEEM INITIAL FORM
qJEEM WITH HAH INITIAL FORMz MEEM INITIAL FORMqHAH WITH JEEM INITIAL FORMzMEEM INITIAL FORM
qKHAH WITH JEEM INITIAL FORMz MEEM INITIAL FORMqSEEN WITH JEEM INITIAL FORMz HAH INITIAL FORM
z KHAH INITIAL FORMz MEEM INITIAL FORMrAD WITH HAH INITIAL FORMzKHAH INITIAL FORM
zMEEM INITIAL FORMqDAD WITH JEEM INITIAL FORMzHAH INITIAL FORMzKHAH INITIAL FORM
zMEEM INITIAL FORMqTAH WITH HAH INITIAL FORMqZAH WITH MEEM INITIAL FORM
qAIN WITH JEEM INITIAL FORMzMEEM INITIAL FORMqGHAIN WITH JEEM INITIAL FORMzH MEEM INITIAL FORM
qFEH WITH JEEM INITIAL FORMzHAH INITIAL FORMzKHAH INITIAL FORMzMEEM INITIAL FORM
qQAF WITH HAH INITIAL FORMzMEEM INITIAL FORMqKAF WITH JEEM INITIAL FORMzHAH INITIAL FORM
zKHAH INITIAL FORMzLAM INITIAL FORMzMEEM INITIAL FORMqLAM WITH JEEM INITIAL FORM
zHAH INITIAL FORMzKHAH INITIAL FORMzMEEM INITIAL FORMzHEH INITIAL FORM
qMEEM WITH JEEM INITIAL FORMz HAH INITIAL FORMz KHAH INITIAL FORMz MEEM INITIAL FORM
qNOON WITH JEEM INITIAL FORMz HAH INITIAL FORMz KHAH INITIAL FORMz MEEM INITIAL FORM
z HEH INITIAL FORMqHEH WITH JEEM INITIAL FORMzMEEM INITIAL FORMzSUPERSCRIPT ALEF INITIAL FORM
qYEH WITH JEEM INITIAL FORMzHAH INITIAL FORMzKHAH INITIAL FORMzMEEM INITIAL FORM
zHEH INITIAL FORMzHAMZA ABOVE WITH MEEM MEDIAL FORMzHAMZA ABOVE WITH HEH MEDIAL FORM
qBEH WITH MEEM MEDIAL FORMzHEH MEDIAL FORMqTEH WITH MEEM MEDIAL FORMzHEH MEDIAL FORM
rHEH WITH MEEM MEDIAL FORMz HEH MEDIAL FORMqSEEN WITH MEEM MEDIAL FORMz HEH MEDIAL FORM
rHEEN WITH MEEM MEDIAL FORMzH HEH MEDIAL FORMqKAF WITH LAM MEDIAL FORMzMEEM MEDIAL FORM
qLAM WITH MEEM MEDIAL FORMqNOON WITH MEEM MEDIAL FORMz HEH MEDIAL FORMqYEH WITH MEEM MEDIAL FORM
zHEH MEDIAL FORMqSHADDA WITH FATHA MEDIAL FORMzTH DAMMA MEDIAL FORMzTH KASRA MEDIAL FORM
qTAH WITH ALEF MAKSURA ISOLATED FORMzYEH ISOLATED FORMqAIN WITH ALEF MAKSURA ISOLATED FORM
zYEH ISOLATED FORMqGHAIN WITH ALEF MAKSURA ISOLATED FORMzH YEH ISOLATED FORM
qSEEN WITH ALEF MAKSURA ISOLATED FORMz YEH ISOLATED FORMrHEEN WITH ALEF MAKSURA ISOLATED FORM
zH YEH ISOLATED FORMqHAH WITH ALEF MAKSURA ISOLATED FORMzYEH ISOLATED FORM
qJEEM WITH ALEF MAKSURA ISOLATED FORMz YEH ISOLATED FORMqKHAH WITH ALEF MAKSURA ISOLATED FORM
z YEH ISOLATED FORMqSAD WITH ALEF MAKSURA ISOLATED FORMzYEH ISOLATED FORM
qDAD WITH ALEF MAKSURA ISOLATED FORMzYEH ISOLATED FORMqSHEEN WITH JEEM ISOLATED FORM
zH HAH ISOLATED FORMzH KHAH ISOLATED FORMzH MEEM ISOLATED FORMzH REH ISOLATED FORM
rEEN WITH REH ISOLATED FORMrAD WITH REH ISOLATED FORMqDAD WITH REH ISOLATED FORM
qTAH WITH ALEF MAKSURA FINAL FORMzYEH FINAL FORMqAIN WITH ALEF MAKSURA FINAL FORMzYEH FINAL FORM
qGHAIN WITH ALEF MAKSURA FINAL FORMzH YEH FINAL FORMqSEEN WITH ALEF MAKSURA FINAL FORM
z YEH FINAL FORMrHEEN WITH ALEF MAKSURA FINAL FORMzH YEH FINAL FORM
qHAH WITH ALEF MAKSURA FINAL FORMzYEH FINAL FORMqJEEM WITH ALEF MAKSURA FINAL FORM
z YEH FINAL FORMqKHAH WITH ALEF MAKSURA FINAL FORMz YEH FINAL FORM
qSAD WITH ALEF MAKSURA FINAL FORMzYEH FINAL FORMqDAD WITH ALEF MAKSURA FINAL FORMzYEH FINAL FORM
qSHEEN WITH JEEM FINAL FORMzH HAH FINAL FORMzH KHAH FINAL FORMzH MEEM FINAL FORM
zH REH FINAL FORMrEEN WITH REH FINAL FORMrAD WITH REH FINAL FORMqDAD WITH REH FINAL FORM
qSHEEN WITH JEEM INITIAL FORMzH HAH INITIAL FORMzH KHAH INITIAL FORMzH MEEM INITIAL FORM
rEEN WITH HEH INITIAL FORMrHEEN WITH HEH INITIAL FORMqTAH WITH MEEM INITIAL FORM
qSEEN WITH JEEM MEDIAL FORMz HAH MEDIAL FORMz KHAH MEDIAL FORMrHEEN WITH JEEM MEDIAL FORM
zH HAH MEDIAL FORMzH KHAH MEDIAL FORMqTAH WITH MEEM MEDIAL FORMqZAH WITH MEEM MEDIAL FORM
qALEF WITH FATHATAN FINAL FORMz FATHATAN ISOLATED FORMaORNATE LEFT PARENTHESIShRIGHT PARENTHESIS
aARABIC LIGATURE RAHIMAHU ALLAAHsDI ALLAAHU ANHzAHU ANHAAzAHU ANHUMzAHU ANHUMAAzAHU ANHUNNA
qSALLALLAAHU ALAYHI WA-AALIHqALAYHI AS-SALAAMwM AS-SALAAMxAA AS-SALAAMw AS-SALAATU WAS-SALAAM
qQUDDISA SIRRAHqSALLALLAHU ALAYHI WAAALIHEE WA-SALLAMqALAYHAA AS-SALAAMqTABAARAKA WA-TAAALAA
qRAHIMAHUM ALLAAHqTEH WITH JEEM WITH MEEM INITIAL FORMzHAH WITH JEEM FINAL FORM
zHAH WITH JEEM INITIAL FORMzHAH WITH MEEM INITIAL FORMzKHAH WITH MEEM INITIAL FORM
zMEEM WITH JEEM INITIAL FORMzMEEM WITH HAH INITIAL FORMzMEEM WITH KHAH INITIAL FORM
qJEEM WITH MEEM WITH HAH FINAL FORMz MEEM WITH HAH INITIAL FORM
qHAH WITH MEEM WITH YEH FINAL FORMzMEEM WITH ALEF MAKSURA FINAL FORM
qSEEN WITH HAH WITH JEEM INITIAL FORMz JEEM WITH HAH INITIAL FORM
z JEEM WITH ALEF MAKSURA FINAL FORMz MEEM WITH HAH FINAL FORMz MEEM WITH HAH INITIAL FORM
z MEEM WITH JEEM INITIAL FORMz MEEM WITH MEEM FINAL FORMz MEEM WITH MEEM INITIAL FORM
rAD WITH HAH WITH HAH FINAL FORMzHAH WITH HAH INITIAL FORMzMEEM WITH MEEM FINAL FORM
rHEEN WITH HAH WITH MEEM FINAL FORMzH HAH WITH MEEM INITIAL FORMzH JEEM WITH YEH FINAL FORM
zH MEEM WITH KHAH FINAL FORMzH MEEM WITH KHAH INITIAL FORMzH MEEM WITH MEEM FINAL FORM
zH MEEM WITH MEEM INITIAL FORMqDAD WITH HAH WITH ALEF MAKSURA FINAL FORM
zKHAH WITH MEEM FINAL FORMzKHAH WITH MEEM INITIAL FORMqTAH WITH MEEM WITH HAH FINAL FORM
zMEEM WITH HAH INITIAL FORMzMEEM WITH MEEM INITIAL FORMzMEEM WITH YEH FINAL FORM
qAIN WITH JEEM WITH MEEM FINAL FORMzMEEM WITH MEEM FINAL FORMzMEEM WITH MEEM INITIAL FORM
zMEEM WITH ALEF MAKSURA FINAL FORMqGHAIN WITH MEEM WITH MEEM FINAL FORM
zH MEEM WITH YEH FINAL FORMzH MEEM WITH ALEF MAKSURA FINAL FORM
qFEH WITH KHAH WITH MEEM FINAL FORMzKHAH WITH MEEM INITIAL FORM
qQAF WITH MEEM WITH HAH FINAL FORMzMEEM WITH MEEM FINAL FORMqLAM WITH HAH WITH MEEM FINAL FORM
zHAH WITH YEH FINAL FORMzHAH WITH ALEF MAKSURA FINAL FORMzJEEM WITH JEEM INITIAL FORM
zJEEM WITH JEEM FINAL FORMzKHAH WITH MEEM FINAL FORMzKHAH WITH MEEM INITIAL FORM
zMEEM WITH HAH FINAL FORMzMEEM WITH HAH INITIAL FORMqMEEM WITH HAH WITH JEEM INITIAL FORM
z HAH WITH MEEM INITIAL FORMz HAH WITH YEH FINAL FORMz JEEM WITH HAH INITIAL FORM
z JEEM WITH MEEM INITIAL FORMz KHAH WITH JEEM INITIAL FORMz KHAH WITH MEEM INITIAL FORM"⟩,
  ⟨0xfd92, "
aARABIC LIGATURE MEEM WITH JEEM WITH KHAH INITIAL FORMqHEH WITH MEEM WITH JEEM INITIAL FORM
zMEEM WITH MEEM INITIAL FORMqNOON WITH HAH WITH MEEM INITIAL FORM
z HAH WITH ALEF MAKSURA FINAL FORMz JEEM WITH MEEM FINAL FORMz JEEM WITH MEEM INITIAL FORM
z JEEM WITH ALEF MAKSURA FINAL FORMz MEEM WITH YEH FINAL FORMz MEEM WITH ALEF MAKSURA FINAL FORM
qYEH WITH MEEM WITH MEEM FINAL FORMzMEEM WITH MEEM INITIAL FORM
qBEH WITH KHAH WITH YEH FINAL FORMqTEH WITH JEEM WITH YEH FINAL FORM
zJEEM WITH ALEF MAKSURA FINAL FORMzKHAH WITH YEH FINAL FORMzKHAH WITH ALEF MAKSURA FINAL FORM
zMEEM WITH YEH FINAL FORMzMEEM WITH ALEF MAKSURA FINAL FORMqJEEM WITH MEEM WITH YEH FINAL FORM
z HAH WITH ALEF MAKSURA FINAL FORMz MEEM WITH ALEF MAKSURA FINAL FORM
qSEEN WITH KHAH WITH ALEF MAKSURA FINAL FORMrAD WITH HAH WITH YEH FINAL FORM
rHEEN WITH HAH WITH YEH FINAL FORMqDAD WITH HAH WITH YEH FINAL FORM
qLAM WITH JEEM WITH YEH FINAL FORMzMEEM WITH YEH FINAL FORMqYEH WITH HAH WITH YEH FINAL FORM
zJEEM WITH YEH FINAL FORMzMEEM WITH YEH FINAL FORMqMEEM WITH MEEM WITH YEH FINAL FORM
qQAF WITH MEEM WITH YEH FINAL FORMqNOON WITH HAH WITH YEH FINAL FORM
qQAF WITH MEEM WITH HAH INITIAL FORMqLAM WITH HAH WITH MEEM INITIAL FORM
qAIN WITH MEEM WITH YEH FINAL FORMqKAF WITH MEEM WITH YEH FINAL FORM
qNOON WITH JEEM WITH HAH INITIAL FORMqMEEM WITH KHAH WITH YEH FINAL FORM
qLAM WITH JEEM WITH MEEM INITIAL FORMqKAF WITH MEEM WITH MEEM FINAL FORM
qLAM WITH JEEM WITH MEEM FINAL FORMqNOON WITH JEEM WITH HAH FINAL FORM
qJEEM WITH HAH WITH YEH FINAL FORMqHAH WITH JEEM WITH YEH FINAL FORM
qMEEM WITH JEEM WITH YEH FINAL FORMqFEH WITH MEEM WITH YEH FINAL FORM
qBEH WITH HAH WITH YEH FINAL FORMqKAF WITH MEEM WITH MEEM INITIAL FORM
qAIN WITH JEEM WITH MEEM INITIAL FORMqSAD WITH MEEM WITH MEEM INITIAL FORM
rEEN WITH KHAH WITH YEH FINAL FORMqNOON WITH JEEM WITH YEH FINAL FORM"⟩,
  ⟨0xfdcf, "aARABIC LIGATURE SALAAMUHU ALAYNAA"⟩,
  ⟨0xfdf0, "
aARABIC LIGATURE SALLA USED AS KORANIC STOP SIGN ISOLATED FORM
qQALA USED AS KORANIC STOP SIGN ISOLATED FORMqALLAH ISOLATED FORMrKBAR ISOLATED FORM
qMOHAMMAD ISOLATED FORMqSALAM ISOLATED FORMqRASOUL ISOLATED FORMqALAYHE ISOLATED FORM
qWASALLAM ISOLATED FORMqSALLA ISOLATED FORMvLLAHOU ALAYHE WASALLAMqJALLAJALALOUHOUaRIAL SIGN
aARABIC LIGATURE BISMILLAH AR-RAHMAN AR-RAHEEMqSUBHAANAHU WA TAAALAAqAZZA WA JALL
aVARIATION SELECTOR-1t2t3t4t5t6t7t8t9t10u1u2u3u4u5u6aPRESENTATION FORM FOR VERTICAL COMMA
zTICAL IDEOGRAPHIC COMMAzTICAL IDEOGRAPHIC FULL STOPzTICAL COLONzTICAL SEMICOLON
zTICAL EXCLAMATION MARKzTICAL QUESTION MARKzTICAL LEFT WHITE LENTICULAR BRACKET
zTICAL RIGHT WHITE LENTICULAR BRAKCETzTICAL HORIZONTAL ELLIPSIS"⟩,
  ⟨0xfe20, "
aCOMBINING LIGATURE LEFT HALFtRIGHT HALFkDOUBLE TILDE LEFT HALFxRIGHT HALFkMACRON LEFT HALF
rRIGHT HALFkCONJOINING MACRONkLIGATURE LEFT HALF BELOWtRIGHT HALF BELOWkTILDE LEFT HALF BELOW
qRIGHT HALF BELOWkMACRON LEFT HALF BELOWrRIGHT HALF BELOWkCONJOINING MACRON BELOW
lYRILLIC TITLO LEFT HALFzRIGHT HALFaPRESENTATION FORM FOR VERTICAL TWO DOT LEADERzTICAL EM DASH
zTICAL EN DASHzTICAL LOW LINEzTICAL WAVY LOW LINEzTICAL LEFT PARENTHESISzTICAL RIGHT PARENTHESIS
zTICAL LEFT CURLY BRACKETzTICAL RIGHT CURLY BRACKETzTICAL LEFT TORTOISE SHELL BRACKET
zTICAL RIGHT TORTOISE SHELL BRACKETzTICAL LEFT BLACK LENTICULAR BRACKET
zTICAL RIGHT BLACK LENTICULAR BRACKETzTICAL LEFT DOUBLE ANGLE BRACKET
zTICAL RIGHT DOUBLE ANGLE BRACKETzTICAL LEFT ANGLE BRACKETzTICAL RIGHT ANGLE BRACKET
zTICAL LEFT CORNER BRACKETzTICAL RIGHT CORNER BRACKETzTICAL LEFT WHITE CORNER BRACKET
zTICAL RIGHT WHITE CORNER BRACKETaSESAME DOTaWHITE SESAME DOT
aPRESENTATION FORM FOR VERTICAL LEFT SQUARE BRACKETzTICAL RIGHT SQUARE BRACKETaDASHED OVERLINE
aCENTRELINE OVERLINEaWAVY OVERLINEaDOUBLE WAVY OVERLINEbASHED LOW LINEaCENTRELINE LOW LINE
aWAVY LOW LINEaSMALL COMMAgIDEOGRAPHIC COMMAgFULL STOP"⟩,
  ⟨0xfe54, "
aSMALL SEMICOLONgCOLONgQUESTION MARKgEXCLAMATION MARKhM DASHgLEFT PARENTHESISgRIGHT PARENTHESIS
gLEFT CURLY BRACKETgRIGHT CURLY BRACKETgLEFT TORTOISE SHELL BRACKETgRIGHT TORTOISE SHELL BRACKET
gNUMBER SIGNgAMPERSANDhSTERISKgPLUS SIGNgHYPHEN-MINUSgLESS-THAN SIGNgGREATER-THAN SIGN
gEQUALS SIGN"⟩,
  ⟨0xfe68, "aSMALL REVERSE SOLIDUSgDOLLAR SIGNgPERCENT SIGNgCOMMERCIAL AT"⟩,
  ⟨0xfe70, "
aARABIC FATHATAN ISOLATED FORMhTATWEEL WITH FATHATAN ABOVEhDAMMATAN ISOLATED FORMhTAIL FRAGMENT
hKASRATAN ISOLATED FORM"⟩,
  ⟨0xfe76, "
aARABIC FATHA ISOLATED FORMnMEDIAL FORMhDAMMA ISOLATED FORMnMEDIAL FORMhKASRA ISOLATED FORM
nMEDIAL FORMhSHADDA ISOLATED FORMoMEDIAL FORMiUKUN ISOLATED FORMnMEDIAL FORM
hLETTER HAMZA ISOLATED FORMoALEF WITH MADDA ABOVE ISOLATED FORMzADDA ABOVE FINAL FORM
yHAMZA ABOVE ISOLATED FORMzAMZA ABOVE FINAL FORMoWAW WITH HAMZA ABOVE ISOLATED FORM
zMZA ABOVE FINAL FORMoALEF WITH HAMZA BELOW ISOLATED FORMzAMZA BELOW FINAL FORM
oYEH WITH HAMZA ABOVE ISOLATED FORMzMZA ABOVE FINAL FORMzMZA ABOVE INITIAL FORM
zMZA ABOVE MEDIAL FORMoALEF ISOLATED FORMtFINAL FORMoBEH ISOLATED FORMsFINAL FORMsINITIAL FORM
sMEDIAL FORMoTEH MARBUTA ISOLATED FORMz FINAL FORMsISOLATED FORMsFINAL FORMsINITIAL FORM
sMEDIAL FORMpHEH ISOLATED FORMtFINAL FORMtINITIAL FORMtMEDIAL FORMoJEEM ISOLATED FORMtFINAL FORM
tINITIAL FORMtMEDIAL FORMoHAH ISOLATED FORMsFINAL FORMsINITIAL FORMsMEDIAL FORM
oKHAH ISOLATED FORMtFINAL FORMtINITIAL FORMtMEDIAL FORMoDAL ISOLATED FORMsFINAL FORM
oTHAL ISOLATED FORMtFINAL FORMoREH ISOLATED FORMsFINAL FORMoZAIN ISOLATED FORMtFINAL FORM
oSEEN ISOLATED FORMtFINAL FORMtINITIAL FORMtMEDIAL FORMpHEEN ISOLATED FORMuFINAL FORM
uINITIAL FORMuMEDIAL FORMpAD ISOLATED FORMsFINAL FORMsINITIAL FORMsMEDIAL FORMoDAD ISOLATED FORM
sFINAL FORMsINITIAL FORMsMEDIAL FORMoTAH ISOLATED FORMsFINAL FORMsINITIAL FORMsMEDIAL FORM
oZAH ISOLATED FORMsFINAL FORMsINITIAL FORMsMEDIAL FORMoAIN ISOLATED FORMsFINAL FORMsINITIAL FORM
sMEDIAL FORMoGHAIN ISOLATED FORMuFINAL FORMuINITIAL FORMuMEDIAL FORMoFEH ISOLATED FORM
sFINAL FORMsINITIAL FORMsMEDIAL FORMoQAF ISOLATED FORMsFINAL FORMsINITIAL FORMsMEDIAL FORM
oKAF ISOLATED FORMsFINAL FORMsINITIAL FORMsMEDIAL FORMoLAM ISOLATED FORMsFINAL FORMsINITIAL FORM
sMEDIAL FORMoMEEM ISOLATED FORMtFINAL FORMtINITIAL FORMtMEDIAL FORMoNOON ISOLATED FORM
tFINAL FORMtINITIAL FORMtMEDIAL FORMoHEH ISOLATED FORMsFINAL FORMsINITIAL FORMsMEDIAL FORM
oWAW ISOLATED FORMsFINAL FORMoALEF MAKSURA ISOLATED FORMzA FINAL FORMoYEH ISOLATED FORM
sFINAL FORMsINITIAL FORMsMEDIAL FORMiIGATURE LAM WITH ALEF WITH MADDA ABOVE ISOLATED FORM
zALEF WITH MADDA ABOVE FINAL FORMzALEF WITH HAMZA ABOVE ISOLATED FORM
zALEF WITH HAMZA ABOVE FINAL FORMzALEF WITH HAMZA BELOW ISOLATED FORM
zALEF WITH HAMZA BELOW FINAL FORMzALEF ISOLATED FORMzALEF FINAL FORM"⟩,
  ⟨0xfeff, "aZERO WIDTH NO-BREAK SPACE"⟩,
  ⟨0xff01, "
aFULLWIDTH EXCLAMATION MARKkQUOTATION MARKkNUMBER SIGNkDOLLAR SIGNkPERCENT SIGNkAMPERSAND
lPOSTROPHEkLEFT PARENTHESISkRIGHT PARENTHESISkASTERISKkPLUS SIGNkCOMMAkHYPHEN-MINUSkFULL STOP
kSOLIDUSkDIGIT ZEROqONEqTWOrHREEqFOURrIVEqSIXrEVENqEIGHTqNINEkCOLONkSEMICOLONkLESS-THAN SIGN
kEQUALS SIGNkGREATER-THAN SIGNkQUESTION MARKkCOMMERCIAL ATkLATIN CAPITAL LETTER AzETTER B
zETTER CzETTER DzETTER EzETTER FzETTER GzETTER HzETTER IzETTER JzETTER KzETTER LzETTER MzETTER N
zETTER OzETTER PzETTER QzETTER RzETTER SzETTER TzETTER UzETTER VzETTER WzETTER XzETTER YzETTER Z
lEFT SQUARE BRACKETkREVERSE SOLIDUSlIGHT SQUARE BRACKETkCIRCUMFLEX ACCENTkLOW LINEkGRAVE ACCENT
kLATIN SMALL LETTER AzTER BzTER CzTER DzTER EzTER FzTER GzTER HzTER IzTER JzTER KzTER LzTER M
zTER NzTER OzTER PzTER QzTER RzTER SzTER TzTER UzTER VzTER WzTER XzTER YzTER ZlEFT CURLY BRACKET
kVERTICAL LINEkRIGHT CURLY BRACKETkTILDEkLEFT WHITE PARENTHESISkRIGHT WHITE PARENTHESIS
aHALFWIDTH IDEOGRAPHIC FULL STOPkLEFT CORNER BRACKETkRIGHT CORNER BRACKETkIDEOGRAPHIC COMMA
kKATAKANA MIDDLE DOTtLETTER WOz SMALL Az SMALL Iz SMALL Uz SMALL Ez SMALL Oz SMALL YAz SMALL YU
z SMALL YOz SMALL TUs-HIRAGANA PROLONGED SOUND MARKs LETTER Az Iz Uz Ez Oz KAz KIz KUz KEz KO
z SAz SIz SUz SEz SOz TAz TIz TUz TEz TOz NAz NIz NUz NEz NOz HAz HIz HUz HEz HOz MAz MIz MUz ME
z MOz YAz YUz YOz RAz RIz RUz REz ROz WAz NtVOICED SOUND MARKtSEMI-VOICED SOUND MARK
kHANGUL FILLERrLETTER KIYEOKySSANGKIYEOKyKIYEOK-SIOSyNIEUNzIEUN-CIEUCzIEUN-HIEUHyTIKEUT
ySSANGTIKEUTyRIEULzIEUL-KIYEOKzIEUL-MIEUMzIEUL-PIEUPzIEUL-SIOSzIEUL-THIEUTHzIEUL-PHIEUPH
zIEUL-HIEUHyMIEUMyPIEUPySSANGPIEUPyPIEUP-SIOSySIOSzSANGSIOSyIEUNGyCIEUCySSANGCIEUCyCHIEUCH
yKHIEUKHyTHIEUTHyPHIEUPHyHIEUH"⟩,
  ⟨0xffc2, "aHALFWIDTH HANGUL LETTER AzEyYAzAEyEOz"⟩,
  ⟨0xffca, "aHALFWIDTH HANGUL LETTER YEOzEyOyWAzAEyOE"⟩,
  ⟨0xffd2, "aHALFWIDTH HANGUL LETTER YOyUyWEOzEzIyYU"⟩,
  ⟨0xffda, "aHALFWIDTH HANGUL LETTER EUyYIyI"⟩,
  ⟨0xffe0, "aFULLWIDTH CENT SIGNkPOUND SIGNkNOT SIGNkMACRONkBROKEN BARkYEN SIGNkWON SIGN"⟩,
  ⟨0xffe8, "
aHALFWIDTH FORMS LIGHT VERTICALkLEFTWARDS ARROWkUPWARDS ARROWkRIGHTWARDS ARROWkDOWNWARDS ARROW
kBLACK SQUAREkWHITE CIRCLE"⟩,
  ⟨0xfff9, "
aINTERLINEAR ANNOTATION ANCHORxSEPARATORxTERMINATORaOBJECT REPLACEMENT CHARACTER
aREPLACEMENT CHARACTER"⟩]

end ChatRiddles.Text.Names
